/-!
The proleptic Gregorian calendar on day numbers.

Days are counted from 1970-01-01, months from January of the year 0, and years include the year 0
and those before it. `monthStart` gives the first day of each month, and `monthOf` finds the month
of a day. The calendar is supported from the year -262143 to the year 262142.

Main statements: `monthStart_succ` (each month is as long as `monthLength` says),
`monthStart_monthOf_le` and `lt_monthStart_succ_monthOf` (each day lies in the month that is found
for it), and `Date.toDay_ofDay`.
-/

namespace Almanac.Calendar

def IsLeap (y : Int) : Prop := y % 4 = 0 ∧ (y % 100 ≠ 0 ∨ y % 400 = 0)

instance (y : Int) : Decidable (IsLeap y) :=
  inferInstanceAs (Decidable (y % 4 = 0 ∧ (y % 100 ≠ 0 ∨ y % 400 = 0)))

/-- The number of days of a month, counted from January of the year 0. -/
def monthLength (month : Int) : Int :=
  if month % 12 = 1 then (if IsLeap (month / 12) then 29 else 28)
  else if month % 12 = 3 ∨ month % 12 = 5 ∨ month % 12 = 8 ∨ month % 12 = 10 then 30
  else 31

/-- Days from 1970-01-01 to the first of January of a year. -/
def daysBeforeYear (y : Int) : Int :=
  365 * (y - 1970) + (y - 1) / 4 - (y - 1) / 100 + (y - 1) / 400 - 477

/-- By how much the months from March on start earlier than if February had thirty days. -/
def februaryGap (y : Int) : Int := if IsLeap y then 1 else 2

/-- Days from the first of January to the first of a month (0 for January): the starts of the
months lie on a straight line, but for the missing days of February. -/
def daysBeforeMonth (y m : Int) : Int :=
  (367 * m + 5) / 12 - (if m < 2 then 0 else februaryGap y)

/-- Days from 1970-01-01 to the first day of a month, counted from January of the year 0. -/
def monthStart (month : Int) : Int :=
  daysBeforeYear (month / 12) + daysBeforeMonth (month / 12) (month % 12)

/-! ## Finding the month of a day -/

/-- A first guess at the year of a day: four hundred years have 146097 days. -/
def yearGuess (day : Int) : Int := 1970 + day * 400 / 146097

/-- The year of a day: the guess or one of its neighbours. -/
def yearOf (day : Int) : Int :=
  if day < daysBeforeYear (yearGuess day) then yearGuess day - 1
  else if daysBeforeYear (yearGuess day + 1) ≤ day then yearGuess day + 1
  else yearGuess day

/-- The month (0 for January) of the day that comes `n` days after the first of January. -/
def monthIn (y n : Int) : Int :=
  (12 * (if n < 61 - februaryGap y then n else n + februaryGap y) + 6) / 367

/-- The month of a day, counted from January of the year 0. -/
def monthOf (day : Int) : Int :=
  yearOf day * 12 + monthIn (yearOf day) (day - daysBeforeYear (yearOf day))

/-! ## The supported calendar -/

def firstYear : Int := -262143

def lastYear : Int := 262142

/-- A month of the supported calendar. -/
def HasMonth (month : Int) : Prop := firstYear * 12 ≤ month ∧ month < (lastYear + 1) * 12

/-- A day of the supported calendar. -/
def HasDay (day : Int) : Prop :=
  daysBeforeYear firstYear ≤ day ∧ day < daysBeforeYear (lastYear + 1)

instance (month : Int) : Decidable (HasMonth month) :=
  inferInstanceAs (Decidable (firstYear * 12 ≤ month ∧ month < (lastYear + 1) * 12))
instance (day : Int) : Decidable (HasDay day) :=
  inferInstanceAs (Decidable (_ ≤ day ∧ day < _))

/-! ## Dates -/

/-- A calendar date: a month, counted from January of the year 0, and a day of it from one. -/
structure Date where
  monthIndex : Int
  day : Int
deriving DecidableEq

namespace Date

def year (d : Date) : Int := d.monthIndex / 12

/-- The month of a date within its year, from 1 to 12. -/
def month (d : Date) : Int := d.monthIndex % 12 + 1

def ofDay (day : Int) : Date := ⟨monthOf day, day - monthStart (monthOf day) + 1⟩

def toDay (d : Date) : Int := monthStart d.monthIndex + d.day - 1

/-- The date of a year, month and day, if the supported calendar has it. -/
def of? (year month day : Int) : Option Date :=
  let index := year * 12 + (month - 1)
  if 1 ≤ month ∧ month ≤ 12 ∧ HasMonth index ∧ 1 ≤ day ∧ day ≤ monthLength index then
    some ⟨index, day⟩
  else none

end Date

/-- The day of the week of a day number, from 0 for Monday. -/
def weekdayOf (day : Int) : Nat := ((day + 3) % 7).toNat

/-! ## Each day lies in its year and month -/

theorem daysBeforeYear_yearOf_le (day : Int) : daysBeforeYear (yearOf day) ≤ day := by
  unfold yearOf
  split
  · unfold daysBeforeYear yearGuess; omega
  · split
    · assumption
    · omega

theorem lt_daysBeforeYear_succ_yearOf (day : Int) : day < daysBeforeYear (yearOf day + 1) := by
  unfold yearOf
  split
  · rwa [Int.sub_add_cancel]
  · split
    · unfold daysBeforeYear yearGuess; omega
    · omega

theorem daysBeforeYear_succ (y : Int) :
    daysBeforeYear (y + 1) = daysBeforeYear y + 367 - februaryGap y := by
  by_cases h : IsLeap y
  · simp only [februaryGap, if_pos h]
    unfold IsLeap at h; unfold daysBeforeYear; omega
  · simp only [februaryGap, if_neg h]
    unfold IsLeap at h; unfold daysBeforeYear; omega

theorem februaryGap_eq (y : Int) : februaryGap y = 1 ∨ februaryGap y = 2 := by
  unfold februaryGap
  split <;> simp

theorem daysBeforeMonth_succ {month : Int} (h : month % 12 < 11) :
    daysBeforeMonth (month / 12) (month % 12 + 1)
      = daysBeforeMonth (month / 12) (month % 12) + monthLength month := by
  have hm : month % 12 = 0 ∨ month % 12 = 1 ∨ month % 12 = 2 ∨ month % 12 = 3
      ∨ month % 12 = 4 ∨ month % 12 = 5 ∨ month % 12 = 6 ∨ month % 12 = 7 ∨ month % 12 = 8
      ∨ month % 12 = 9 ∨ month % 12 = 10 := by omega
  unfold daysBeforeMonth monthLength februaryGap
  by_cases hl : IsLeap (month / 12)
  · rcases hm with hm | hm | hm | hm | hm | hm | hm | hm | hm | hm | hm <;> simp [hm, hl]
  · rcases hm with hm | hm | hm | hm | hm | hm | hm | hm | hm | hm | hm <;> simp [hm, hl]

/-- The months follow each other without gap, each as long as its length says. -/
theorem monthStart_succ (month : Int) :
    monthStart (month + 1) = monthStart month + monthLength month := by
  unfold monthStart
  by_cases h : month % 12 = 11
  · have h1 : (month + 1) / 12 = month / 12 + 1 := by omega
    have h2 : (month + 1) % 12 = 0 := by omega
    rw [h1, h2, daysBeforeYear_succ]
    simp [daysBeforeMonth, monthLength, h]
    omega
  · have h1 : (month + 1) / 12 = month / 12 := by omega
    have h2 : (month + 1) % 12 = month % 12 + 1 := by omega
    rw [h1, h2, daysBeforeMonth_succ (by omega)]
    omega

theorem monthLength_bounds (month : Int) : 28 ≤ monthLength month ∧ monthLength month ≤ 31 := by
  unfold monthLength
  split
  · split <;> omega
  · split <;> omega

theorem monthIn_bounds {y n : Int} (h0 : 0 ≤ n) (h1 : n < 367 - februaryGap y) :
    0 ≤ monthIn y n ∧ monthIn y n < 12 := by
  have := februaryGap_eq y
  unfold monthIn
  split <;> omega

theorem daysBeforeMonth_monthIn_le (y n : Int) : daysBeforeMonth y (monthIn y n) ≤ n := by
  have := februaryGap_eq y
  unfold daysBeforeMonth monthIn
  split <;> split <;> omega

theorem lt_daysBeforeMonth_succ_monthIn (y n : Int) (h : monthIn y n < 11) :
    n < daysBeforeMonth y (monthIn y n + 1) := by
  have := februaryGap_eq y
  unfold daysBeforeMonth monthIn at *
  split at h <;> split <;> omega

theorem monthIn_yearOf_bounds (day : Int) :
    0 ≤ monthIn (yearOf day) (day - daysBeforeYear (yearOf day))
      ∧ monthIn (yearOf day) (day - daysBeforeYear (yearOf day)) < 12 := by
  have h0 := daysBeforeYear_yearOf_le day
  have h1 := lt_daysBeforeYear_succ_yearOf day
  rw [daysBeforeYear_succ] at h1
  exact monthIn_bounds (by omega) (by omega)

theorem monthOf_div (day : Int) : monthOf day / 12 = yearOf day := by
  have := monthIn_yearOf_bounds day
  unfold monthOf
  omega

theorem monthOf_mod (day : Int) :
    monthOf day % 12 = monthIn (yearOf day) (day - daysBeforeYear (yearOf day)) := by
  have := monthIn_yearOf_bounds day
  unfold monthOf
  omega

theorem monthStart_monthOf_le (day : Int) : monthStart (monthOf day) ≤ day := by
  have := daysBeforeMonth_monthIn_le (yearOf day) (day - daysBeforeYear (yearOf day))
  unfold monthStart
  rw [monthOf_div, monthOf_mod]
  omega

theorem lt_monthStart_succ_monthOf (day : Int) : day < monthStart (monthOf day + 1) := by
  have hb := monthIn_yearOf_bounds day
  have hn := lt_daysBeforeMonth_succ_monthIn (yearOf day) (day - daysBeforeYear (yearOf day))
  have hy := lt_daysBeforeYear_succ_yearOf day
  have hd := monthOf_div day
  have hm := monthOf_mod day
  unfold monthStart
  by_cases h : monthOf day % 12 = 11
  · have h1 : (monthOf day + 1) / 12 = yearOf day + 1 := by omega
    have h2 : (monthOf day + 1) % 12 = 0 := by omega
    rw [h1, h2]
    simp [daysBeforeMonth]
    omega
  · have h1 : (monthOf day + 1) / 12 = yearOf day := by omega
    have h2 : (monthOf day + 1) % 12 = monthOf day % 12 + 1 := by omega
    rw [h1, h2, hm]
    omega

theorem Date.toDay_ofDay (day : Int) : (Date.ofDay day).toDay = day := by
  simp only [Date.toDay, Date.ofDay]
  omega

example : Date.of? 2000 2 29 = some (Date.ofDay 11016) := by decide
example : Date.of? 1900 2 29 = none := by decide
example : weekdayOf 0 = 3 := by decide

end Almanac.Calendar
