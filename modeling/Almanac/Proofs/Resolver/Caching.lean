import Almanac.Proofs.DateMath.Order
import Almanac.Proofs.DateMath.Reading
import Almanac.Proofs.Resolver.Order
/-!
# Ranges that may be cached

Whether a range may be cached is judged by the text of its sides alone, and by a scan that knows
nothing of the grammar: does a slash follow the first `now`?  The main statement is that the scan
never errs on the unsafe side.  Take two presents.  A side that does not start from `NOW` has one
value in both.  A side that does is `NOW` and operations, the scan has seen a slash, and a slash is
a rounding (`exists_round_of_slash`).  A rounding forgets where in its unit it started
(`apply_round_congr`), so the value is the same in both presents as long as the operations before
the rounding lead from both into one unit.
-/

namespace Almanac

open Calendar

/-! ## Operations from two presents -/

namespace DateMath

variable {rounding : Rounding} {i j x y z : Instant} {u : CalendarUnit}

/-- Rounding gives one result from everywhere in a unit. -/
theorem apply_round_congr (h : unitStart u y.toInt = unitStart u x.toInt)
    (hx : (Operation.round u).apply rounding x = .ok z) :
    (Operation.round u).apply rounding y = .ok z := by
  cases rounding with
  | down =>
      show roundDown y u = .ok z
      rw [roundDown_eq_ok_iff, h]
      exact roundDown_eq_ok_iff.mp hx
  | up =>
      show roundUp y u = .ok z
      rw [roundUp_eq_ok_iff, h, unitStop_congr h]
      exact roundUp_eq_ok_iff.mp hx

/-- Operations give one result from two presents if those before a rounding lead into one unit. -/
theorem evaluate_congr {pre post : List Operation} (hi : evaluate rounding i pre = .ok x)
    (hj : evaluate rounding j pre = .ok y) (h : unitStart u y.toInt = unitStart u x.toInt)
    (hz : evaluate rounding i (pre ++ .round u :: post) = .ok z) :
    evaluate rounding j (pre ++ .round u :: post) = .ok z := by
  obtain ⟨x', hx', hz⟩ := evaluate_append_eq_ok.mp hz
  obtain rfl := Except.ok.inj (hi.symm.trans hx')
  obtain ⟨w, hw, hz⟩ := evaluate_cons_eq_ok.mp hz
  exact evaluate_append_eq_ok.mpr
    ⟨y, hj, evaluate_cons_eq_ok.mpr ⟨w, apply_round_congr h hw, hz⟩⟩

/-! ## Texts that start from `NOW` -/

theorem read_now {text : List Char} {p : Parsed} (h : read text = .ok (some p))
    (hnow : p.expression.anchor = .now) :
    ∃ word suffix, text = word ++ suffix ∧ Text.upper word = nowWord ∧
      readOperations suffix = .ok p.expression.operations := by
  simp only [read] at h
  split at h
  · next rest hrest =>
    obtain ⟨ops, hops, h⟩ := bind_eq_ok.mp h
    obtain rfl := Option.some.inj (pure_eq_ok.mp h)
    obtain ⟨word, suffix, rfl, hword, rfl⟩ :=
      List.map_eq_append_iff.mp (Text.after?_eq_some_iff.mp hrest)
    refine ⟨word, suffix, rfl, hword, ?_⟩
    rw [readSuffix, mapError_eq_ok, readOperations, mapError_eq_ok] at hops
    rw [readOperations, mapError_eq_ok]
    exact scanOperations_upper_iff.mp hops
  · split at h
    · cases pure_eq_ok.mp h
    · obtain ⟨anchor, -, h⟩ := bind_eq_ok.mp h
      obtain ⟨ops, -, h⟩ := bind_eq_ok.mp h
      obtain rfl := Option.some.inj (pure_eq_ok.mp h)
      cases hnow

end DateMath

/-! ## The scan for a slash -/

namespace CacheSafety

theorem slash_mem_of_isRounded : ∀ {cs : List Char}, isRounded cs = true → '/' ∈ cs
  | [], h => nomatch h
  | c :: cs, h => by
      unfold isRounded at h
      split at h
      · next hc => exact hc ▸ List.mem_cons_self
      · split at h
        · cases h
        · exact List.mem_cons_of_mem c (slash_mem_of_isRounded h)

/-- A text that begins with `NOW` and is not unsafe has a slash after it. -/
theorem slash_mem_of_not_isUnsafe {word suffix : List Char}
    (hword : Text.upper word = DateMath.nowWord) (h : isUnsafe (word ++ suffix) = false) :
    '/' ∈ suffix := by
  have hlength : presentWord.length = word.length := by
    have := congrArg List.length hword
    rw [Text.upper, List.length_map] at this
    exact this.symm
  have hafter : Text.afterLetters? presentWord (word ++ suffix) = some suffix := by
    rw [Text.afterLetters?_append hlength, if_pos]
    rw [hword]
    rfl
  have hpresent : afterPresent? (word ++ suffix) = some suffix := by
    cases word with
    | nil => cases hlength
    | cons c word =>
        rw [List.cons_append] at hafter ⊢
        simp only [afterPresent?, hafter]
  unfold isUnsafe at h
  rw [hpresent] at h
  exact slash_mem_of_isRounded (by simpa using h)

end CacheSafety

namespace Resolver

variable {r : Resolver} {rounding : Rounding} {now now' : Instant} {input : Option Input}
  {inclusive : Bool}

/-! ## One side in two presents -/

/-- A text has one value in two presents if its date math has. -/
theorem resolveText_congr {text : String}
    (h : byDateMath text.toList now' rounding = byDateMath text.toList now rounding) :
    r.resolveText text now' rounding = r.resolveText text now rounding := by
  unfold resolveText afterLayout
  rw [h]

theorem byDateMath_congr {text : List Char}
    (h : ∀ p, DateMath.read text = .ok (some p) →
      p.value now' rounding = p.value now rounding) :
    byDateMath text now' rounding = byDateMath text now rounding := by
  unfold byDateMath
  cases hread : DateMath.read text with
  | error fault => rfl
  | ok found =>
      cases found with
      | none => rfl
      | some p =>
          show (p.value now' rounding >>= _) = (p.value now rounding >>= _)
          rw [h p hread]

theorem side_congr {text : String} (hinput : input.bind Input.text? = some text)
    (h : r.resolveText text now' rounding = r.resolveText text now rounding) :
    r.side input inclusive now' rounding = r.side input inclusive now rounding := by
  obtain ⟨input, rfl, htext⟩ := Option.bind_eq_some_iff.mp hinput
  simp only [side, resolve_of_text? htext, h]

/-- A side keeps its value: in every present, or it is `NOW` and operations with a rounding among
them, and keeps it in each present from which the operations before any rounding lead into the unit
into which they led before. -/
def IsKept (r : Resolver) (input : Option Input) (inclusive : Bool) (rounding : Rounding)
    (now : Instant) : Prop :=
  (∀ now', r.side input inclusive now' rounding = r.side input inclusive now rounding) ∨
    ∃ text word suffix ops, input.bind Input.text? = some text ∧ text.toList = word ++ suffix ∧
      Text.upper word = DateMath.nowWord ∧ DateMath.readOperations suffix = .ok ops ∧
      (∃ u, .round u ∈ ops) ∧
      ∀ pre u post, ops = pre ++ .round u :: post →
        ∃ y, DateMath.evaluate rounding now pre = .ok y ∧
          ∀ now' y', DateMath.evaluate rounding now' pre = .ok y' →
            unitStart u y'.toInt = unitStart u y.toInt →
              r.side input inclusive now' rounding = r.side input inclusive now rounding

/-- Date math from the present that is not unsafe has a rounding among its operations. -/
theorem exists_round_of_steady {text : List Char} {p : DateMath.Parsed}
    (hsteady : CacheSafety.isUnsafe text = false) (hread : DateMath.read text = .ok (some p))
    (hnow : p.expression.anchor = .now) : ∃ u, .round u ∈ p.expression.operations := by
  obtain ⟨word, suffix, rfl, hword, hops⟩ := DateMath.read_now hread hnow
  rw [DateMath.readOperations, mapError_eq_ok] at hops
  exact DateMath.exists_round_of_slash hops (CacheSafety.slash_mem_of_not_isUnsafe hword hsteady)

/-- Date math from the present keeps its value in each present from which the operations before a
rounding lead into one unit. -/
theorem resolveText_congr_of_unit {text : String} {p : DateMath.Parsed} {i x y : Instant}
    {pre post : List DateMath.Operation} {u : CalendarUnit}
    (hread : DateMath.read text.toList = .ok (some p)) (hnow : p.expression.anchor = .now)
    (hi : DateMath.evaluate rounding now p.expression.operations = .ok i)
    (hops : p.expression.operations = pre ++ .round u :: post)
    (hx : DateMath.evaluate rounding now pre = .ok x)
    (hy : DateMath.evaluate rounding now' pre = .ok y)
    (hunit : unitStart u y.toInt = unitStart u x.toInt) :
    r.resolveText text now' rounding = r.resolveText text now rounding := by
  refine resolveText_congr (byDateMath_congr fun p' hp' => ?_)
  obtain rfl := Option.some.inj (Except.ok.inj (hread.symm.trans hp'))
  rw [DateMath.Parsed.value_now hnow, DateMath.Parsed.value_now hnow, hi]
  rw [hops] at hi ⊢
  exact DateMath.evaluate_congr hx hy hunit hi

theorem isKept_of_text {text : String} {res : Resolution}
    (hinput : input.bind Input.text? = some text)
    (hsteady : CacheSafety.isUnsafe text.toList = false)
    (hres : r.resolveText text now rounding = .ok res) : r.IsKept input inclusive rounding now := by
  by_cases hfrom : ∃ p, DateMath.read text.toList = .ok (some p) ∧ p.expression.anchor = .now
  · obtain ⟨p, hread, hnow⟩ := hfrom
    rw [resolveText_eq_ok_iff] at hres
    cases hres with
    | displayFormat hi =>
        refine Or.inl fun now' => side_congr hinput ?_
        rw [resolveText_eq_ok_iff.mpr (.displayFormat hi),
          resolveText_eq_ok_iff.mpr (.displayFormat hi)]
    | dateMath _ hi =>
        obtain ⟨p', hp', hvalue⟩ := byDateMath_eq_ok_iff.mp hi
        obtain rfl := Option.some.inj (Except.ok.inj (hread.symm.trans hp'))
        rw [DateMath.Parsed.value_now hnow] at hvalue
        obtain ⟨word, suffix, htext, hword, hops⟩ := DateMath.read_now hread hnow
        refine Or.inr ⟨text, word, suffix, _, hinput, htext, hword, hops,
          exists_round_of_steady hsteady hread hnow, ?_⟩
        intro pre u post hsplit
        obtain ⟨x, hx, -⟩ := DateMath.evaluate_append_eq_ok.mp (hsplit ▸ hvalue)
        refine ⟨x, hx, fun now' y hy hunit => side_congr hinput ?_⟩
        exact resolveText_congr_of_unit hread hnow hvalue hsplit hx hy hunit
    | numericFallback _ hi =>
        obtain ⟨w, hw⟩ := byScale?_eq_some hi
        cases (DateMath.read_of_word? hw).symm.trans hread
  · -- no stage looks at the present
    refine Or.inl fun now' => side_congr hinput (resolveText_congr (byDateMath_congr ?_))
    intro p hp
    exact DateMath.Parsed.value_literal (fun hnow => hfrom ⟨p, hp, hnow⟩) now' now

theorem isKept_of_steady {b : Bound} (h : r.side input inclusive now rounding = .ok (b, true)) :
    r.IsKept input inclusive rounding now := by
  cases input with
  | none => exact Or.inl fun now' => rfl
  | some input =>
      obtain ⟨res, hres, hb⟩ := side_eq_ok_iff.mp h
      have hsteady : isSteady input = true := congrArg Prod.snd hb
      cases htext : input.text? with
      | none =>
          cases input with
          | number millis => exact Or.inl fun now' => rfl
          | bytes bytes => cases htext
          | text text => cases htext
      | some text =>
          rw [resolve_of_text? htext] at hres
          simp only [isSteady, htext, Option.any_some, Bool.not_eq_true'] at hsteady
          exact isKept_of_text htext hsteady hres

/-! ## Ranges -/

theorem not_steady_of_unrounded {b : Bound × Bool} {text : String} {p : DateMath.Parsed}
    (h : r.side input inclusive now rounding = .ok b) (hinput : input.bind Input.text? = some text)
    (hread : DateMath.read text.toList = .ok (some p)) (hnow : p.expression.anchor = .now)
    (hno : ∀ u, .round u ∉ p.expression.operations) : b.2 = false := by
  obtain ⟨input, rfl, htext⟩ := Option.bind_eq_some_iff.mp hinput
  obtain ⟨res, -, rfl⟩ := side_eq_ok_iff.mp h
  show isSteady input = false
  simp only [isSteady, htext, Option.any_some]
  cases hunsafe : CacheSafety.isUnsafe text.toList with
  | true => rfl
  | false =>
      obtain ⟨u, hu⟩ := exists_round_of_steady hunsafe hread hnow
      exact absurd hu (hno u)

/-- A range that may be cached keeps both of its sides, and a range one side of which date math
resolves from the present without a rounding may never be cached. -/
theorem cacheable_kept {lower upper : Option Input} {rules : RangeRules} {range : Interval}
    (h : r.range lower upper rules now = .ok range) :
    (range.cacheable = true →
      r.IsKept lower rules.includeLower .down now ∧
        r.IsKept upper rules.includeUpper rules.upperRounding now) ∧
    ∀ input text p, input = lower ∨ input = upper → input.bind Input.text? = some text →
      DateMath.read text.toList = .ok (some p) → p.expression.isNowRelative = true →
        (∀ u, .round u ∉ p.expression.operations) → range.cacheable = false := by
  obtain ⟨low, high, hlow, hhigh, rfl⟩ := range_eq_ok_iff.mp h
  obtain ⟨lowBound, lowSteady⟩ := low
  obtain ⟨highBound, highSteady⟩ := high
  constructor
  · intro hcacheable
    obtain ⟨rfl, rfl⟩ := Bool.and_eq_true_iff.mp hcacheable
    exact ⟨isKept_of_steady hlow, isKept_of_steady hhigh⟩
  · intro input text p hinput htext hread hnow hno
    have hnow : p.expression.anchor = .now := of_decide_eq_true hnow
    show (lowSteady && highSteady) = false
    rcases hinput with rfl | rfl
    · have hfalse : lowSteady = false := not_steady_of_unrounded hlow htext hread hnow hno
      rw [hfalse, Bool.false_and]
    · have hfalse : highSteady = false := not_steady_of_unrounded hhigh htext hread hnow hno
      rw [hfalse, Bool.and_false]

/-- From the start of yesterday to the end of a date. -/
theorem cacheable_kept_since_yesterday :
    ∃ range, DateField.default.resolver.range (some (.text "now-1DAY/DAY"))
        (some (.text "2021-01-31")) {} ⟨1612048200000⟩ = .ok range ∧ range.cacheable = true ∧
      DateField.default.resolver.IsKept (some (.text "now-1DAY/DAY")) true .down ⟨1612048200000⟩ ∧
      DateField.default.resolver.IsKept (some (.text "2021-01-31")) true .up ⟨1612048200000⟩ := by
  have h : DateField.default.resolver.range (some (.text "now-1DAY/DAY"))
      (some (.text "2021-01-31")) {} ⟨1612048200000⟩
      = .ok ⟨.closedAt ⟨1611878400000⟩ true, .closedAt ⟨1612137599999⟩ true, true⟩ :=
    toOption_eq_some.mp (by decide +kernel)
  exact ⟨_, h, rfl, (cacheable_kept h).1 rfl⟩

end Resolver

end Almanac
