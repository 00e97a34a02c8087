import Mathlib.Order.Monotone.Basic
import Almanac.Calendar.Arithmetic
/-!
# Months in order

The first days of the months ascend without end and leave no day out, so a day lies in exactly one
month (`monthOf_eq_iff`) and later days lie in later months.  Everything that the calendar does with
days goes through that one fact: the supported calendar is a run of whole months (`hasDay_iff`), a
date that exists is found again for its day (`Date.ofDay_toDay`), and moving two dates by the same
number of months keeps their days in order, cut back or not (`toDay_dateAfterMonths_mono`).

What moving by months does NOT keep is the order of two instants of different days.  The two dates
may be cut back to one day, and then the times of day decide; `Proofs.DateMath.Order` is about that.
-/

namespace Almanac.Calendar

/-! ## The starts of the months -/

theorem monthStart_lt_succ (month : Int) : monthStart month < monthStart (month + 1) := by
  have h := (monthLength_bounds month).1
  rw [monthStart_succ]
  omega

theorem monthStart_lt_iff {a b : Int} : monthStart a < monthStart b ↔ a < b :=
  (strictMono_int_of_lt_succ monthStart_lt_succ).lt_iff_lt

theorem monthStart_le_iff {a b : Int} : monthStart a ≤ monthStart b ↔ a ≤ b :=
  (strictMono_int_of_lt_succ monthStart_lt_succ).le_iff_le

theorem monthStart_inj {a b : Int} : monthStart a = monthStart b ↔ a = b :=
  (strictMono_int_of_lt_succ monthStart_lt_succ).injective.eq_iff

/-- The month of a day is the one month that the day lies in. -/
theorem monthOf_eq_iff {day month : Int} :
    monthOf day = month ↔ monthStart month ≤ day ∧ day < monthStart (month + 1) := by
  constructor
  · rintro rfl
    exact ⟨monthStart_monthOf_le day, lt_monthStart_succ_monthOf day⟩
  · rintro ⟨hle, hlt⟩
    have h₁ : monthOf day < month + 1 :=
      monthStart_lt_iff.mp (Int.lt_of_le_of_lt (monthStart_monthOf_le day) hlt)
    have h₂ : month < monthOf day + 1 :=
      monthStart_lt_iff.mp (Int.lt_of_le_of_lt hle (lt_monthStart_succ_monthOf day))
    omega

@[simp] theorem monthOf_monthStart (month : Int) : monthOf (monthStart month) = month :=
  monthOf_eq_iff.mpr ⟨Int.le_refl _, monthStart_lt_succ month⟩

theorem le_monthOf_iff {day month : Int} : month ≤ monthOf day ↔ monthStart month ≤ day := by
  constructor
  · intro h
    exact Int.le_trans (monthStart_le_iff.mpr h) (monthStart_monthOf_le day)
  · intro h
    have hlt : month < monthOf day + 1 :=
      monthStart_lt_iff.mp (Int.lt_of_le_of_lt h (lt_monthStart_succ_monthOf day))
    omega

theorem monthOf_mono {day day' : Int} (h : day ≤ day') : monthOf day ≤ monthOf day' :=
  le_monthOf_iff.mpr (Int.le_trans (monthStart_monthOf_le day) h)

theorem lt_of_monthOf_lt {day day' : Int} (h : monthOf day < monthOf day') : day < day' :=
  Int.not_le.mp fun hle => Int.not_le.mpr h (monthOf_mono hle)

theorem monthStart_year (y : Int) : monthStart (y * 12) = daysBeforeYear y := by
  have hdiv : y * 12 / 12 = y := by omega
  have hmod : y * 12 % 12 = 0 := by omega
  simp only [monthStart, hdiv, hmod, daysBeforeMonth]
  omega

/-- The supported calendar is made of whole months. -/
theorem hasDay_iff {day : Int} : HasDay day ↔ HasMonth (monthOf day) := by
  have hfirst : firstYear * 12 ≤ monthOf day ↔ daysBeforeYear firstYear ≤ day := by
    rw [le_monthOf_iff, monthStart_year]
  have hlast : (lastYear + 1) * 12 ≤ monthOf day ↔ daysBeforeYear (lastYear + 1) ≤ day := by
    rw [le_monthOf_iff, monthStart_year]
  unfold HasDay HasMonth
  omega

theorem HasDay.bounds {day : Int} (h : HasDay day) : -96465292 ≤ day ∧ day ≤ 95026601 := by
  simp only [HasDay, daysBeforeYear, firstYear, lastYear] at h
  omega

/-! ## Dates that exist -/

/-- A date of the supported calendar: its month has that many days. -/
structure Date.Exists (d : Date) : Prop where
  hasMonth : HasMonth d.monthIndex
  one_le_day : 1 ≤ d.day
  day_le : d.day ≤ monthLength d.monthIndex

namespace Date

theorem of?_eq_some_iff {year month day : Int} {d : Date} :
    of? year month day = some d ↔
      1 ≤ month ∧ month ≤ 12 ∧ d.Exists ∧ d.monthIndex = year * 12 + (month - 1) ∧ d.day = day := by
  simp only [of?]
  constructor
  · intro h
    split at h
    · next hc =>
      obtain ⟨h1, h12, hm, hd, hl⟩ := hc
      cases h
      exact ⟨h1, h12, ⟨hm, hd, hl⟩, rfl, rfl⟩
    · cases h
  · rintro ⟨h1, h12, ⟨hm, hd, hl⟩, hi, rfl⟩
    rw [hi] at hm hl
    rw [if_pos ⟨h1, h12, hm, hd, hl⟩, ← hi]

theorem monthOf_toDay {d : Date} (h₁ : 1 ≤ d.day) (h₂ : d.day ≤ monthLength d.monthIndex) :
    monthOf d.toDay = d.monthIndex := by
  rw [monthOf_eq_iff, monthStart_succ]
  unfold toDay
  omega

theorem ofDay_toDay {d : Date} (h : d.Exists) : ofDay d.toDay = d := by
  have hm := monthOf_toDay h.one_le_day h.day_le
  cases d with
  | mk month day =>
      simp only [ofDay, hm, Date.mk.injEq, true_and]
      simp only [toDay]
      omega

theorem Exists.hasDay {d : Date} (h : d.Exists) : HasDay d.toDay := by
  rw [hasDay_iff, monthOf_toDay h.one_le_day h.day_le]
  exact h.hasMonth

theorem one_le_day_ofDay (day : Int) : 1 ≤ (ofDay day).day := by
  have h := monthStart_monthOf_le day
  simp only [ofDay]
  omega

theorem day_ofDay_le (day : Int) : (ofDay day).day ≤ monthLength (ofDay day).monthIndex := by
  have h := lt_monthStart_succ_monthOf day
  rw [monthStart_succ] at h
  simp only [ofDay]
  omega

theorem exists_ofDay {day : Int} (h : HasDay day) : (ofDay day).Exists :=
  ⟨hasDay_iff.mp h, one_le_day_ofDay day, day_ofDay_le day⟩

theorem month_bounds (d : Date) : 1 ≤ d.month ∧ d.month ≤ 12 := by
  unfold month
  omega

theorem monthIndex_eq (d : Date) : d.monthIndex = d.year * 12 + (d.month - 1) := by
  unfold year month
  omega

end Date

/-! ## Moving by months -/

theorem monthOf_toDay_dateAfterMonths (day months : Int) :
    monthOf (dateAfterMonths day months).toDay = monthOf day + months := by
  have h₁ := Date.one_le_day_ofDay day
  have hl := (monthLength_bounds (monthOf day + months)).1
  rw [Date.monthOf_toDay]
  · simp only [dateAfterMonths, Date.ofDay]
  · simp only [dateAfterMonths, Date.ofDay] at h₁ ⊢
    omega
  · simp only [dateAfterMonths]
    omega

theorem ofDay_toDay_dateAfterMonths (day months : Int) :
    Date.ofDay (dateAfterMonths day months).toDay = dateAfterMonths day months := by
  have hmonth := monthOf_toDay_dateAfterMonths day months
  simp only [Date.ofDay, hmonth]
  simp only [dateAfterMonths, Date.ofDay, Date.toDay, Date.mk.injEq, true_and]
  omega

/-- More months lead to a later day, wherever the dates are cut back. -/
theorem toDay_dateAfterMonths_lt {months months' : Int} (day : Int) (h : months < months') :
    (dateAfterMonths day months).toDay < (dateAfterMonths day months').toDay := by
  apply lt_of_monthOf_lt
  rw [monthOf_toDay_dateAfterMonths, monthOf_toDay_dateAfterMonths]
  exact Int.add_lt_add_left h _

/-- Every month has a 28th, so up to there no date is cut back, and the months of two moves can be
counted together. -/
theorem dateAfterMonths_add {day : Int} (h : (Date.ofDay day).day ≤ 28) (months months' : Int) :
    dateAfterMonths (dateAfterMonths day months).toDay months'
      = dateAfterMonths day (months + months') := by
  have huncut (n : Int) : min (Date.ofDay day).day (monthLength n) = (Date.ofDay day).day := by
    have hlength := (monthLength_bounds n).1
    omega
  have hfirst := ofDay_toDay_dateAfterMonths day months
  simp only [dateAfterMonths, huncut] at hfirst ⊢
  simp only [hfirst, huncut, Int.add_assoc]

/-- Of two days the later one does not come first after the same number of months. -/
theorem toDay_dateAfterMonths_mono {day day' : Int} (months : Int) (h : day ≤ day') :
    (dateAfterMonths day months).toDay ≤ (dateAfterMonths day' months).toDay := by
  have hm := monthOf_mono h
  rcases Int.lt_or_eq_of_le hm with hlt | heq
  · -- different months stay different months, whatever is cut back within them
    have h₁ := (monthOf_eq_iff.mp (monthOf_toDay_dateAfterMonths day months)).2
    have h₂ := (monthOf_eq_iff.mp (monthOf_toDay_dateAfterMonths day' months)).1
    have h₃ : monthStart (monthOf day + months + 1) ≤ monthStart (monthOf day' + months) :=
      monthStart_le_iff.mpr (by omega)
    omega
  · simp only [dateAfterMonths, Date.toDay, Date.ofDay, heq]
    omega

theorem dateAfterMonths_monthStart (month months : Int) :
    dateAfterMonths (monthStart month) months = ⟨month + months, 1⟩ := by
  have h := (monthLength_bounds (month + months)).1
  simp only [dateAfterMonths, Date.ofDay, monthOf_monthStart, Date.mk.injEq, true_and]
  omega

end Almanac.Calendar
