import Almanac.Proofs.Calendar.Adding
/-!
# What is left of the laws of addition

Amounts of a unit of fixed length are added as integers are.  Months and years are not: a date may
be cut back to the end of a shorter month, and what is cut off does not come back.  So moving there
and back need not return, and of two instants the earlier one may end up last.

Three laws are left (`adding_laws`).  Two amounts can be added in two goes or in one, if the unit
has a fixed length or the date is at most the 28th of its month, since no month cuts that back.  A
greater amount always leads further, for the month decides before the day does.  And the same amount
keeps two instants in the order of their days, though not of their times of day.
-/

namespace Almanac.Calendar

variable {u : CalendarUnit} {n n' sum : Int64} {x y x' y' z w : Instant}

/-! ## Months and years -/

/-- Months and years move the day of an instant and leave its time of day. -/
theorem day_of_add_months (h : u.fixedMillis? = none) (hadd : add x u n = .ok y) :
    y.day = (dateAfterMonths x.day (n.toInt * monthsPer u)).toDay ∧
      y.timeOfDay = x.timeOfDay := by
  obtain ⟨months, hmonths, -, -, hy⟩ := (add_months_eq_ok_iff h).mp hadd
  have hx := x.timeOfDay_bounds
  have hsum := y.day_mul_add_timeOfDay
  have htime := y.timeOfDay_bounds
  rw [monthsIn?_eq_some_iff.mp hmonths] at hy
  unfold dayMillis at hx hy hsum htime
  omega

theorem monthsPer_pos (u : CalendarUnit) : 0 < monthsPer u := by
  unfold monthsPer
  split <;> decide

/-! ## The three laws -/

theorem add_add_eq (hsum : sum.toInt = n.toInt + n'.toInt)
    (huncut : u.fixedMillis? ≠ none ∨ (Date.ofDay x.day).day ≤ 28) (hy : add x u n = .ok y)
    (hz : add y u n' = .ok z) (hw : add x u sum = .ok w) : z = w := by
  cases hu : u.fixedMillis? with
  | some length =>
      have hy := ((add_fixed_eq_ok_iff hu).mp hy).2
      have hz := ((add_fixed_eq_ok_iff hu).mp hz).2
      have hw := ((add_fixed_eq_ok_iff hu).mp hw).2
      rw [hsum, Int.add_mul] at hw
      exact Instant.toInt_inj.mp (by omega)
  | none =>
      have hday : (Date.ofDay x.day).day ≤ 28 := huncut.resolve_left (absurd hu)
      obtain ⟨hy, hytime⟩ := day_of_add_months hu hy
      obtain ⟨hz, hztime⟩ := day_of_add_months hu hz
      obtain ⟨hw, hwtime⟩ := day_of_add_months hu hw
      refine Instant.ext_day ?_ ((hztime.trans hytime).trans hwtime.symm)
      rw [hz, hy, hw, dateAfterMonths_add hday, hsum, Int.add_mul]

theorem add_lt_add_of_lt (h : n < n') (hy : add x u n = .ok y) (hz : add x u n' = .ok z) :
    y < z := by
  rw [Int64.lt_iff_toInt_lt] at h
  cases hu : u.fixedMillis? with
  | some length =>
      have hlength := fixedMillis_bounds hu
      have hy := ((add_fixed_eq_ok_iff hu).mp hy).2
      have hz := ((add_fixed_eq_ok_iff hu).mp hz).2
      have hmul := Int.mul_lt_mul_of_pos_right h (by omega : 0 < length.toInt)
      show y.toInt < z.toInt
      omega
  | none =>
      obtain ⟨hy, -⟩ := day_of_add_months hu hy
      obtain ⟨hz, -⟩ := day_of_add_months hu hz
      apply Instant.lt_of_day_lt
      rw [hy, hz]
      exact toDay_dateAfterMonths_lt x.day (Int.mul_lt_mul_of_pos_right h (monthsPer_pos u))

theorem day_add_le_day_add (h : x ≤ y) (hx : add x u n = .ok x') (hy : add y u n = .ok y') :
    x'.day ≤ y'.day := by
  cases hu : u.fixedMillis? with
  | some length =>
      have hx := ((add_fixed_eq_ok_iff hu).mp hx).2
      have hy := ((add_fixed_eq_ok_iff hu).mp hy).2
      rw [Instant.le_def] at h
      exact Instant.day_mono (Instant.le_def.mpr (by omega))
  | none =>
      rw [(day_of_add_months hu hx).1, (day_of_add_months hu hy).1]
      exact toDay_dateAfterMonths_mono _ (Instant.day_mono h)

/-- The laws that adding units to instants keeps, wherever it gives instants at all: amounts of one
unit add up if the unit has a fixed length or the day of the month is at most the 28th, a greater
amount leads further, and an amount that is added to two instants leaves their days in order. -/
theorem adding_laws (u : CalendarUnit) :
    (∀ (x y z w : Instant) (n n' sum : Int64), sum.toInt = n.toInt + n'.toInt →
      u.fixedMillis? ≠ none ∨ (Date.ofDay x.day).day ≤ 28 → add x u n = .ok y →
        add y u n' = .ok z → add x u sum = .ok w → z = w) ∧
      (∀ (x y z : Instant) (n n' : Int64), n < n' → add x u n = .ok y → add x u n' = .ok z →
        y < z) ∧
      ∀ (x y x' y' : Instant) (n : Int64), x ≤ y → add x u n = .ok x' → add y u n = .ok y' →
        x'.day ≤ y'.day := by
  refine ⟨?_, ?_, ?_⟩
  · intro x y z w n n' sum hsum huncut hy hz hw
    exact add_add_eq hsum huncut hy hz hw
  · intro x y z n n' h hy hz
    exact add_lt_add_of_lt h hy hz
  · intro x y x' y' n h hx hy
    exact day_add_le_day_add h hx hy

/-- From the 28th of February 2020 a year on and eleven months back, and the other way round; and
two instants, before and after midnight, that end up on the last day of February. -/
theorem adding_laws_february :
    (∃ y z w, add ⟨1582932600000⟩ .month 12 = .ok y ∧ add y .month (-11) = .ok z ∧
        add ⟨1582932600000⟩ .month 1 = .ok w ∧ z = w) ∧
      (∃ y z, add ⟨1582932600000⟩ .month (-11) = .ok y ∧ add ⟨1582932600000⟩ .month 12 = .ok z ∧
        y < z) ∧
      ∃ x' y', add ⟨1612049400000⟩ .month 1 = .ok x' ∧ add ⟨1612053000000⟩ .month 1 = .ok y' ∧
        x'.day ≤ y'.day := by
  obtain ⟨hgroup, hamounts, hdays⟩ := adding_laws .month
  have hadd (x n y : Int64) (h : (add ⟨x⟩ .month n).toOption = some ⟨y⟩) :
      add ⟨x⟩ .month n = .ok ⟨y⟩ := toOption_eq_some.mp h
  have hon := hadd 1582932600000 12 1614555000000 (by decide +kernel)
  have hback := hadd 1614555000000 (-11) 1585438200000 (by decide +kernel)
  have hone := hadd 1582932600000 1 1585438200000 (by decide +kernel)
  have hearlier := hadd 1582932600000 (-11) 1553815800000 (by decide +kernel)
  have hbefore := hadd 1612049400000 1 1614555000000 (by decide +kernel)
  have hafter := hadd 1612053000000 1 1614472200000 (by decide +kernel)
  have hsame := hgroup _ _ _ _ 12 (-11) 1 (by decide) (Or.inr (by decide +kernel)) hon hback hone
  exact ⟨⟨_, _, _, hon, hback, hone, hsame⟩,
    ⟨_, _, hearlier, hon, hamounts _ _ _ (-11) 12 (by decide) hearlier hon⟩,
    ⟨_, _, hbefore, hafter, hdays _ _ _ _ 1 (by decide) hbefore hafter⟩⟩

end Almanac.Calendar
