import Almanac.DateField
import Almanac.Proofs.DateMath.Order
import Almanac.Proofs.Resolver.Stages
/-!
# Widening does not lower a bound

A text is resolved twice, rounding down for the lower side of a range and rounding up for the upper
one.  The main statement says when the two are in order, so that the range holds the instant that
the text is indexed under.  Two things can turn them round, and both are named in it:

* the display format reads the text, but the unit that it names has no end in the calendar.  Then
  rounding up leaves the display format and the later stages read the text as something else
  (`fallsThrough`);
* date math cuts the two runs back past each other (`cutsBack`, see `Proofs.DateMath.Order`).

Both do happen; the last statement has an input for each.
-/

namespace Almanac

theorem Reading.le_widen {reading : Reading} {rounding : Rounding} {i : Instant}
    (h : reading.widen rounding = .ok i) : reading.instant ≤ i := by
  cases rounding with
  | down =>
      cases h
      exact Int.le_refl _
  | up => exact Calendar.le_endOfUnitAt h

/-- The two values of date math are in order unless its runs are cut back. -/
theorem DateMath.Parsed.value_le {p : DateMath.Parsed} {now d e : Instant}
    (hcut : cutsBack (p.expression.anchor.instant now) (p.expression.anchor.instant now)
      p.expression.operations = false)
    (hd : p.value now .down = .ok d) (he : p.value now .up = .ok e) : d ≤ e := by
  unfold Parsed.value at hd he
  split at he
  · next start hanchor hops =>
    -- a literal by itself: its own unit is widened
    simp only [hanchor, hops, Anchor.instant, evaluate, Except.ok.injEq] at hd
    subst hd
    exact Calendar.le_endOfUnit he
  · exact evaluate_le (Int.le_refl _) hcut hd he

namespace Resolver

/-- Whether the display format reads a text as a literal whose unit does not end in the calendar,
so that rounding up leaves it to the later stages. -/
def fallsThrough (r : Resolver) (text : List Char) : Bool :=
  match r.layout.read text with
  | .ok reading => !(reading.widen .up).isOk
  | .error _ => false

/-- Whether a text is date math whose two runs are cut back past each other. -/
def cutsBack (r : Resolver) (text : List Char) (now : Instant) : Bool :=
  match r.layout.read text, DateMath.read text with
  | .error _, .ok (some p) =>
      DateMath.cutsBack (p.expression.anchor.instant now) (p.expression.anchor.instant now)
        p.expression.operations
  | _, _ => false

variable {r : Resolver} {text : String} {now : Instant}

theorem byLayout_ne_up {t : List Char} (h : ∀ j, r.byLayout t .down ≠ .ok j) :
    (∃ fault, r.layout.read t = .error fault) ∧ ∀ j, r.byLayout t .up ≠ .ok j := by
  have hread : ∀ reading, r.layout.read t ≠ .ok reading := by
    intro reading hreading
    exact h reading.instant (byLayout_eq_ok_iff.mpr ⟨reading, hreading, rfl⟩)
  refine ⟨exists_error_iff.mpr hread, ?_⟩
  intro j hj
  obtain ⟨reading, hreading, -⟩ := byLayout_eq_ok_iff.mp hj
  exact hread reading hreading

theorem down_le_up {d e : Resolution} (hfall : r.fallsThrough text.toList = false)
    (hcut : r.cutsBack text.toList now = false)
    (hd : r.resolveText text now .down = .ok d) (he : r.resolveText text now .up = .ok e) :
    d.instant ≤ e.instant := by
  rw [resolveText_eq_ok_iff] at hd he
  cases hd with
  | displayFormat hd =>
      obtain ⟨reading, hread, hd⟩ := byLayout_eq_ok_iff.mp hd
      obtain rfl := Except.ok.inj hd
      cases hup : reading.widen .up with
      | error fault => simp [fallsThrough, hread, hup, Except.isOk, Except.toBool] at hfall
      | ok w =>
          -- the reading can be widened, so rounding up does not fall through to a later stage
          have hby : r.byLayout text.toList .up = .ok w := byLayout_eq_ok_iff.mpr ⟨_, hread, hup⟩
          cases he with
          | displayFormat he =>
              obtain rfl := Except.ok.inj (hby.symm.trans he)
              exact Reading.le_widen hup
          | dateMath hno _ => exact absurd hby (hno w)
          | numericFallback hno _ => exact absurd hby (hno w)
  | dateMath hno hd =>
      obtain ⟨⟨fault, hfault⟩, hno⟩ := byLayout_ne_up hno
      obtain ⟨p, hp, hd⟩ := byDateMath_eq_ok_iff.mp hd
      cases he with
      | displayFormat he => exact absurd he (hno _)
      | dateMath _ he =>
          obtain ⟨p', hp', he⟩ := byDateMath_eq_ok_iff.mp he
          obtain rfl := Option.some.inj (Except.ok.inj (hp.symm.trans hp'))
          simp only [cutsBack, hfault, hp] at hcut
          exact DateMath.Parsed.value_le hcut hd he
      | numericFallback _ he =>
          obtain ⟨w, hw⟩ := byScale?_eq_some he
          cases (DateMath.read_of_word? hw).symm.trans hp
  | numericFallback hno hd =>
      cases he with
      | displayFormat he => exact absurd he ((byLayout_ne_up hno).2 _)
      | dateMath _ he => cases (byDateMath_of_byScale? hd).symm.trans he
      | numericFallback _ he =>
          obtain rfl := Option.some.inj (hd.symm.trans he)
          exact Int.le_refl _

/-! ## The range between a text and itself -/

theorem side_eq_ok_iff {input : Input} {inclusive : Bool} {rounding : Rounding}
    {b : Bound × Bool} :
    r.side (some input) inclusive now rounding = .ok b ↔
      ∃ res, r.resolve input now rounding = .ok res ∧
        (.closedAt res.instant inclusive, isSteady input) = b := by
  simp only [side, bind_eq_ok, pure_eq_ok]

theorem range_eq_ok_iff {lower upper : Option Input} {rules : RangeRules} {range : Interval} :
    r.range lower upper rules now = .ok range ↔
      ∃ low high, r.side lower rules.includeLower now .down = .ok low ∧
        r.side upper rules.includeUpper now rules.upperRounding = .ok high ∧
        ⟨low.1, high.1, low.2 && high.2⟩ = range := by
  simp only [Resolver.range, bind_eq_ok, pure_eq_ok]
  constructor
  · rintro ⟨low, hlow, high, hhigh, h⟩
    exact ⟨low, high, hlow, hhigh, h⟩
  · rintro ⟨low, high, hlow, hhigh, h⟩
    exact ⟨low, hlow, high, hhigh, h⟩

/-- Widening an upper bound does not put it below the instant that its text is indexed under: the
two ways of rounding are in order, and an inclusive range from a text to the same text contains what
the text resolves to. -/
theorem widened_not_lower (r : Resolver) (text : String) (now : Instant)
    (hfall : r.fallsThrough text.toList = false) (hcut : r.cutsBack text.toList now = false) :
    (∀ d e, r.resolveText text now .down = .ok d → r.resolveText text now .up = .ok e →
      d.instant ≤ e.instant) ∧
    ∀ f : DateField, f.resolver = r → f.widenUpper = true →
      ∀ lower upper : Input, lower.text? = some text → upper.text? = some text →
        ∀ range, f.range (some lower) (some upper) true true now = .ok range →
          ∃ i, f.resolve lower now = .ok i ∧ range.contains i = true := by
  refine ⟨fun d e => down_le_up hfall hcut, ?_⟩
  intro f hf hwiden lower upper hlower hupper range hrange
  have hrounding : (f.rangeRules true true).upperRounding = .up := by
    simp [DateField.rangeRules, RangeRules.upperRounding, hwiden]
  obtain ⟨low, high, hlow, hhigh, rfl⟩ := range_eq_ok_iff.mp hrange
  rw [hrounding] at hhigh
  obtain ⟨d, hd, rfl⟩ := side_eq_ok_iff.mp hlow
  obtain ⟨e, he, rfl⟩ := side_eq_ok_iff.mp hhigh
  have hle : d.instant ≤ e.instant := by
    rw [hf, resolve_of_text? hlower] at hd
    rw [hf, resolve_of_text? hupper] at he
    exact down_le_up hfall hcut hd he
  refine ⟨d.instant, bind_eq_ok.mpr ⟨d, hd, rfl⟩, ?_⟩
  rw [Instant.le_def] at hle
  simp [Interval.contains, Bound.closedAt, DateField.rangeRules, hle]

/-- A day before a month's end is cut back and the order still stands. -/
theorem widened_not_lower_month_end :
    DateField.default.resolver.fallsThrough "NOW/DAY-1MONTH".toList = false ∧
      DateField.default.resolver.cutsBack "NOW/DAY-1MONTH".toList ⟨1617235199000⟩ = false ∧
      (⟨1614470400000⟩ : Instant) ≤ ⟨1614556799999⟩ := by
  have hfall : DateField.default.resolver.fallsThrough "NOW/DAY-1MONTH".toList = false := by
    decide +kernel
  have hcut : DateField.default.resolver.cutsBack "NOW/DAY-1MONTH".toList ⟨1617235199000⟩
      = false := by decide +kernel
  have hd : DateField.default.resolver.resolveText "NOW/DAY-1MONTH" ⟨1617235199000⟩ .down
      = .ok ⟨⟨1614470400000⟩, .dateMath⟩ := toOption_eq_some.mp (by decide +kernel)
  have he : DateField.default.resolver.resolveText "NOW/DAY-1MONTH" ⟨1617235199000⟩ .up
      = .ok ⟨⟨1614556799999⟩, .dateMath⟩ := toOption_eq_some.mp (by decide +kernel)
  exact ⟨hfall, hcut, (widened_not_lower _ _ _ hfall hcut).1 _ _ hd he⟩

/-- Rounding up can end before rounding down: half an hour after the last hour of the 30th of
January lies the 31st, and a month later both are the 28th of February; and the last year of the
calendar has no end, so that its number is read as milliseconds. -/
theorem widened_lower :
    (∃ d e range, DateField.default.resolver.resolveText "NOW/HOUR+30MINUTE+1MONTH"
          ⟨1612048200000⟩ .down = .ok d ∧
        DateField.default.resolver.resolveText "NOW/HOUR+30MINUTE+1MONTH"
          ⟨1612048200000⟩ .up = .ok e ∧
        e.instant < d.instant ∧
        DateField.default.range (some (.text "NOW/HOUR+30MINUTE+1MONTH"))
          (some (.text "NOW/HOUR+30MINUTE+1MONTH")) true true ⟨1612048200000⟩ = .ok range ∧
        range.contains d.instant = false) ∧
      ∃ layout d e, Layout.compile "yyyy" = .ok layout ∧
        resolveText ⟨layout, .milliseconds⟩ "+262142" .epoch .down = .ok d ∧
        resolveText ⟨layout, .milliseconds⟩ "+262142" .epoch .up = .ok e ∧
        e.instant < d.instant := by
  refine ⟨⟨⟨⟨1614555000000⟩, .dateMath⟩, ⟨⟨1614472199999⟩, .dateMath⟩,
      ⟨.closedAt ⟨1614555000000⟩ true, .closedAt ⟨1614472199999⟩ true, true⟩,
      toOption_eq_some.mp ?_, toOption_eq_some.mp ?_, ?_, toOption_eq_some.mp ?_, ?_⟩,
    ⟨"yyyy", .pattern ⟨"yyyy".toList, [.field .year], .year⟩, []⟩,
      ⟨⟨8210235340800000⟩, .displayFormat⟩, ⟨⟨262142⟩, .numericFallback⟩,
      toOption_eq_some.mp ?_, toOption_eq_some.mp ?_, toOption_eq_some.mp ?_, ?_⟩
  all_goals decide +kernel

end Resolver

end Almanac
