import Almanac.Proofs.Calendar.Units
import Almanac.Proofs.Resolver.Stages
/-!
# Stages with the default format

In the default format the order of the stages does not matter, only that one of them accepts.  What
date math reads as well is a canonical timestamp without operations (`read_of_readOptionalTime`),
and it is widened alike in both places, for it is written on the clock of UTC.  Numbers are neither:
a date needs a dash after its year, and date math a letter.  So a number resolves to its multiple of
the scale whenever words can hold both (`resolveText_number`).
-/

namespace Almanac

theorem Text.IsNumber.readOptionalTime_ne {cs : List Char} {value : Int}
    (h : Text.IsNumber cs value) (reading : Reading) :
    Timestamp.readOptionalTime cs ≠ .ok reading := by
  cases h with
  | unsigned _ hdigits => exact Timestamp.not_ok_of_digits (Or.inl rfl) hdigits reading
  | plus _ hdigits => exact Timestamp.not_ok_of_digits (Or.inr (Or.inl rfl)) hdigits reading
  | minus _ hdigits => exact Timestamp.not_ok_of_digits (Or.inr (Or.inr rfl)) hdigits reading

/-! ## The default format -/

theorem Layout.read_default_eq_ok_iff {text : List Char} {reading : Reading} :
    Layout.default.read text = .ok reading ↔ Timestamp.readOptionalTime text = .ok reading := by
  simp only [Layout.read, Layout.default, Alternative.read]
  cases Timestamp.readOptionalTime text <;> exact Iff.rfl

/-- On the clock of UTC a literal is widened to the end of its unit as it stands. -/
theorem Reading.widen_utc {reading : Reading} {e : Instant} (hoffset : reading.offset = 0)
    (h : reading.widen .up = .ok e) :
    Calendar.endOfUnit reading.instant reading.precision = .ok e := by
  obtain ⟨shown, last, hshown, hlast, -, he⟩ := Calendar.endOfUnitAt_eq_ok_iff.mp h
  have hzero : reading.offset.toInt = 0 := by
    rw [hoffset]
    rfl
  rw [hzero] at hshown he
  have hsame : shown = reading.instant :=
    Instant.toInt_inj.mp ((Instant.shift?_eq_some_iff.mp hshown).trans (Int.add_zero _))
  have hlast' : last = e := Instant.toInt_inj.mp (he.trans (Int.sub_zero _)).symm
  rw [← hsame, hlast, hlast']

namespace Resolver

variable {scale : Scale} {text : List Char} {now i j : Instant} {rounding : Rounding}

theorem byLayout_default_eq_ok_iff :
    byLayout ⟨.default, scale⟩ text rounding = .ok i ↔
      ∃ reading, Timestamp.readOptionalTime text = .ok reading ∧
        reading.widen rounding = .ok i := by
  simp only [byLayout_eq_ok_iff, Layout.read_default_eq_ok_iff]

/-- The default format and date math give one instant where both give one. -/
theorem byLayout_eq_byDateMath (hi : byLayout ⟨.default, scale⟩ text rounding = .ok i)
    (hj : byDateMath text now rounding = .ok (some j)) : i = j := by
  obtain ⟨reading, hread, hwiden⟩ := byLayout_default_eq_ok_iff.mp hi
  obtain ⟨p, hp, hvalue⟩ := byDateMath_eq_ok_iff.mp hj
  obtain ⟨rfl, hcanonical⟩ := DateMath.read_of_readOptionalTime hread hp
  cases rounding with
  | down => exact Except.ok.inj (hwiden.symm.trans hvalue)
  | up =>
      -- date math widens by the unit alone, the default format on the clock of the reading
      have hoffset : reading.offset = 0 := by
        obtain ⟨-, -, -, i, -, -, rfl⟩ := Timestamp.readCanonical_eq_ok_iff.mp hcanonical
        rfl
      exact Except.ok.inj ((Reading.widen_utc hoffset hwiden).symm.trans hvalue)

/-! ## Bare integers -/

variable {r : Resolver} {t : String} {value : Int}

theorem byScale?_eq_some_iff (h : Text.integer? text = some value) :
    r.byScale? text = some i ↔
      Word.Fits value ∧ i.toInt = value * r.scale.factor.toInt := by
  simp only [byScale?, Text.word?, h, Option.bind_some, Option.bind_eq_bind, Option.pure_def,
    Option.bind_eq_some_iff, Word.fit?_eq_some_iff, Scale.toMillis?, Word.mul?, Option.some.injEq]
  constructor
  · rintro ⟨w, rfl, millis, hmillis, rfl⟩
    exact ⟨Word.fits_toInt w, hmillis⟩
  · rintro ⟨hfits, hi⟩
    obtain ⟨w, -, rfl⟩ := Word.fit?_of_fits hfits
    exact ⟨w, rfl, i.millis, hi, rfl⟩

/-- With the default format a number resolves to its multiple of the scale, if words can hold the
number and the multiple, and is refused otherwise. -/
theorem resolveText_number (h : Text.IsNumber t.toList value) :
    (Word.Fits value ∧ Word.Fits (value * scale.factor.toInt) →
      ∃ i : Instant, i.toInt = value * scale.factor.toInt ∧
        resolveText ⟨.default, scale⟩ t now rounding = .ok ⟨i, .numericFallback⟩) ∧
    (¬ (Word.Fits value ∧ Word.Fits (value * scale.factor.toInt)) →
      ∃ cause, resolveText ⟨.default, scale⟩ t now rounding
        = .error (unresolved ⟨.default, scale⟩ t cause)) := by
  have hlayout : ∀ j, byLayout ⟨.default, scale⟩ t.toList rounding ≠ .ok j := by
    intro j hj
    obtain ⟨reading, hread, -⟩ := byLayout_default_eq_ok_iff.mp hj
    exact h.readOptionalTime_ne reading hread
  obtain ⟨cause, hresolve⟩ : ∃ cause, resolveText ⟨.default, scale⟩ t now rounding
      = afterLayout.byNumber ⟨.default, scale⟩ t cause :=
    resolveText_of_unread hlayout (DateMath.read_of_isNumber h)
  rw [hresolve]
  constructor
  · rintro ⟨hvalue, hproduct⟩
    obtain ⟨i, hi⟩ := Instant.exists_toInt_eq hproduct
    have hscale : byScale? ⟨.default, scale⟩ t.toList = some i :=
      (byScale?_eq_some_iff (Text.integer?_eq_some_iff.mpr h)).mpr ⟨hvalue, hi⟩
    exact ⟨i, hi, byNumber_eq_ok_iff.mpr ⟨i, hscale, rfl⟩⟩
  · intro hno
    have hscale : byScale? ⟨.default, scale⟩ t.toList = none := by
      rw [Option.eq_none_iff_forall_ne_some]
      intro i hi
      obtain ⟨hvalue, hproduct⟩ := (byScale?_eq_some_iff (Text.integer?_eq_some_iff.mpr h)).mp hi
      exact hno ⟨hvalue, hproduct ▸ i.fits_toInt⟩
    refine ⟨cause, ?_⟩
    unfold afterLayout.byNumber
    rw [hscale]

/-- In the default format the stages of resolution do not compete.  The display format and date math
give one instant where both give one, and no text of theirs is a bare integer.  A number resolves to
its multiple of the scale whenever words can hold both, and is refused otherwise. -/
theorem default_stages_agree (scale : Scale) (text : String) (now : Instant) (rounding : Rounding) :
    (∀ i j, byLayout ⟨.default, scale⟩ text.toList rounding = .ok i →
      byDateMath text.toList now rounding = .ok (some j) → i = j) ∧
    (∀ k, byScale? ⟨.default, scale⟩ text.toList = some k →
      (∀ i, byLayout ⟨.default, scale⟩ text.toList rounding ≠ .ok i) ∧
        ∀ j, byDateMath text.toList now rounding ≠ .ok (some j)) ∧
    ∀ value, Text.IsNumber text.toList value →
      (Word.Fits value ∧ Word.Fits (value * scale.factor.toInt) →
        ∃ i : Instant, i.toInt = value * scale.factor.toInt ∧
          resolveText ⟨.default, scale⟩ text now rounding = .ok ⟨i, .numericFallback⟩) ∧
      (¬ (Word.Fits value ∧ Word.Fits (value * scale.factor.toInt)) →
        ∃ cause, resolveText ⟨.default, scale⟩ text now rounding
          = .error (unresolved ⟨.default, scale⟩ text cause)) := by
  refine ⟨fun i j => byLayout_eq_byDateMath, ?_, fun value => resolveText_number⟩
  intro k hk
  obtain ⟨w, hw⟩ := byScale?_eq_some hk
  have hnumber := Text.word?_eq_some_iff.mp hw
  constructor
  · intro i hi
    obtain ⟨reading, hread, -⟩ := byLayout_default_eq_ok_iff.mp hi
    exact hnumber.readOptionalTime_ne reading hread
  · intro j hj
    cases (byDateMath_of_byScale? hk).symm.trans hj

/-- A second that two stages read, and a number of days with a sign and leading zeros. -/
theorem default_stages_agree_leap_day :
    (∃ i, byLayout ⟨.default, .days⟩ "2024-02-29T10:00:00Z".toList .up = .ok i ∧
      byDateMath "2024-02-29T10:00:00Z".toList .epoch .up = .ok (some i)) ∧
    ∃ i : Instant, i.toInt = -12 * 86400000 ∧
      resolveText ⟨.default, .days⟩ "-0012" .epoch .up = .ok ⟨i, .numericFallback⟩ := by
  have hlayout : byLayout ⟨.default, .days⟩ "2024-02-29T10:00:00Z".toList .up
      = .ok ⟨1709200800999⟩ := toOption_eq_some.mp (by decide +kernel)
  obtain ⟨j, hmath⟩ : ∃ j, byDateMath "2024-02-29T10:00:00Z".toList .epoch .up = .ok (some j) :=
    ⟨⟨1709200800999⟩, toOption_eq_some.mp (by decide +kernel)⟩
  have hnumber : Text.IsNumber "-0012".toList (-12) :=
    .minus (by decide) (List.all_eq_true.mp (by decide))
  refine ⟨⟨_, hlayout, ?_⟩, ?_⟩
  · rw [(default_stages_agree .days "2024-02-29T10:00:00Z" .epoch .up).1 _ j hlayout hmath]
    exact hmath
  · exact ((default_stages_agree .days "-0012" .epoch .up).2.2 (-12) hnumber).1 (by decide)

end Resolver

end Almanac
