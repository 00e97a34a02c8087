import Almanac.Proofs.Calendar.Moment
import Almanac.Proofs.Calendar.Units
import Almanac.Proofs.DateMath.Evaluation
/-!
# Date math rounded down and rounded up

The same operations are run twice, from `x` rounding down and from `y ≥ x` rounding up, in step.
A rounding moves the two runs apart and an offset of fixed length moves them alike, so `x ≤ y` is
kept.  An offset in months or years keeps the order of the DAYS only.  It can cut two days back to
the last day of a month, and when the earlier instant has the later time of day it then comes last:

    2021-01-30T23:30  +1MONTH  =  2021-02-28T23:30
    2021-01-31T00:30  +1MONTH  =  2021-02-28T00:30

`Operation.cutsBack` is that case, and it is the only one (`apply_le_iff`).  A run without it ends
in order (`evaluate_le`).
-/

namespace Almanac.Calendar

/-- Cut back or not, dates of one day number are the same date. -/
theorem dateAfterMonths_eq_iff {day day' months : Int} :
    dateAfterMonths day months = dateAfterMonths day' months ↔
      (dateAfterMonths day months).toDay = (dateAfterMonths day' months).toDay := by
  constructor
  · intro h
    rw [h]
  · intro h
    have hm : monthOf day + months = monthOf day' + months := by
      rw [← monthOf_toDay_dateAfterMonths, ← monthOf_toDay_dateAfterMonths, h]
    have hm' : monthOf day = monthOf day' := by omega
    simp only [dateAfterMonths, Date.toDay, Date.ofDay, hm', Date.mk.injEq, true_and] at h ⊢
    omega

end Almanac.Calendar

namespace Almanac.DateMath

open Calendar

/-- Whether an offset in months or years cuts two instants of different days back to one day, on
which the one that was earlier then comes last. -/
def Operation.cutsBack (x y : Instant) : Operation → Bool
  | .offset unit amount =>
      match unit.fixedMillis?, monthsIn? unit amount with
      | none, some months =>
          x.day < y.day && y.timeOfDay < x.timeOfDay &&
            dateAfterMonths x.day months.toInt = dateAfterMonths y.day months.toInt
      | _, _ => false
  | .round _ => false

/-- Whether operations ever do that, run from `x` rounding down and from `y` rounding up. -/
def cutsBack (x y : Instant) : List Operation → Bool
  | [] => false
  | op :: ops =>
      op.cutsBack x y ||
        match op.apply .down x, op.apply .up y with
        | .ok x', .ok y' => cutsBack x' y' ops
        | _, _ => false

variable {x y x' y' : Instant}

/-! ## One step -/

/-- An offset in months keeps the order of two instants unless it cuts them back. -/
theorem months_le_iff {unit : CalendarUnit} {amount : Int64} (hu : unit.fixedMillis? = none)
    (h : x ≤ y) (hx : add x unit amount = .ok x') (hy : add y unit amount = .ok y') :
    x' ≤ y' ↔ Operation.cutsBack x y (.offset unit amount) = false := by
  obtain ⟨months, hm, -, -, hx'⟩ := (add_months_eq_ok_iff hu).mp hx
  obtain ⟨months', hm', -, -, hy'⟩ := (add_months_eq_ok_iff hu).mp hy
  obtain rfl : months = months' := Option.some.inj (hm.symm.trans hm')
  have htx := Instant.timeOfDay_bounds x
  have hty := Instant.timeOfDay_bounds y
  have hdays := toDay_dateAfterMonths_mono months.toInt (Instant.day_mono h)
  simp only [Operation.cutsBack, hu, hm, dateAfterMonths_eq_iff, Instant.le_def, hx', hy',
    Bool.and_eq_false_imp, Bool.and_eq_true, decide_eq_true_eq, decide_eq_false_iff_not, and_imp]
  rcases Int.lt_or_eq_of_le hdays with hlt | heq
  · -- the days stay apart, and no time of day can make up for that
    unfold dayMillis at *
    exact ⟨fun _ _ _ => by omega, fun _ => by omega⟩
  · rw [heq]
    constructor
    · intro hle _ ht
      omega
    · intro hcut
      rcases Int.lt_or_eq_of_le (Instant.day_mono h) with hday | hday
      · have ht : ¬ y.timeOfDay < x.timeOfDay := fun ht => hcut hday ht rfl
        omega
      · have hx := Instant.day_mul_add_timeOfDay x
        have hy := Instant.day_mul_add_timeOfDay y
        rw [Instant.le_def] at h
        rw [hday] at hx
        omega

/-- One step of the two runs keeps their order exactly if it does not cut them back. -/
theorem apply_le_iff {op : Operation} (h : x ≤ y) (hx : op.apply .down x = .ok x')
    (hy : op.apply .up y = .ok y') : x' ≤ y' ↔ op.cutsBack x y = false := by
  cases op with
  | round unit =>
      have h₁ : x' ≤ x := roundDown_le hx
      have h₂ : y ≤ y' := le_roundUp hy
      simp only [Operation.cutsBack, iff_true]
      exact Int.le_trans h₁ (Int.le_trans h h₂)
  | offset unit amount =>
      cases hu : unit.fixedMillis? with
      | none => exact months_le_iff hu h hx hy
      | some length =>
          have h₁ := ((add_fixed_eq_ok_iff hu).mp hx).2
          have h₂ := ((add_fixed_eq_ok_iff hu).mp hy).2
          simp only [Operation.cutsBack, hu, iff_true]
          rw [Instant.le_def] at h ⊢
          omega

/-! ## The whole run -/

/-- Two runs that are in order, and are never cut back, end in order. -/
theorem evaluate_le {d e : Instant} : ∀ {ops : List Operation} {x y : Instant},
    x ≤ y → cutsBack x y ops = false →
      evaluate .down x ops = .ok d → evaluate .up y ops = .ok e → d ≤ e
  | [], _, _, h, _, hd, he => by
      cases hd
      cases he
      exact h
  | op :: ops, x, y, h, hcut, hd, he => by
      obtain ⟨x', hx, hd⟩ := evaluate_cons_eq_ok.mp hd
      obtain ⟨y', hy, he⟩ := evaluate_cons_eq_ok.mp he
      simp only [cutsBack, hx, hy, Bool.or_eq_false_iff] at hcut
      exact evaluate_le ((apply_le_iff h hx hy).mpr hcut.1) hcut.2 hd he

end Almanac.DateMath
