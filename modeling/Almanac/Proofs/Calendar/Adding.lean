import Almanac.Proofs.Calendar.Moment
import Almanac.Proofs.Calendar.Units
/-!
# Adding is exact

Adding an amount of a unit gives the instant that the amount means, or none.  For a fixed length it
is the sum, if the word holds the product and the sum.  For months and years it is a moment of the
calendar: the month is the old one moved by the months in the amount, the time of day stays, and the
day stays too or is cut back to the length of the month (`add_exact`).

The month that is calculated is one of some year, and all that can fail is that the calendar does
not have the year.  If it does, the moment exists (`exists_moved`): every month has 28 days, so
nothing is cut back to no day at all, and a moment of the calendar always fits in the word.
-/

namespace Almanac.Calendar

variable {u : CalendarUnit} {amount : Int64} {x j : Instant} {m : Moment} {n : Int}

/-! ## Moments of another month -/

/-- The month that lies an amount of months or years after the month of a date, counted from January
of the year 0. -/
def monthArrived (u : CalendarUnit) (date : Date) (amount : Int) : Int :=
  date.year * 12 + (date.month - 1) + amount * monthsPer u

/-- The moment that lies an amount of months or years after a moment. -/
def moved (u : CalendarUnit) (m : Moment) (amount : Int) : Moment where
  date :=
    ⟨monthArrived u m.date amount,
      min m.date.day (monthLength (monthArrived u m.date amount))⟩
  time := m.time

theorem hasMonth_iff {month : Int} :
    HasMonth month ↔ firstYear ≤ month / 12 ∧ month / 12 ≤ lastYear := by
  unfold HasMonth
  omega

theorem exists_moved (h : m.Exists) (hmonth : HasMonth (monthArrived u m.date n)) :
    (moved u m n).Exists := by
  have hone := h.date.one_le_day
  have hlength := (monthLength_bounds (monthArrived u m.date n)).1
  refine ⟨⟨hmonth, ?_, Int.min_le_right _ _⟩, h.time⟩
  exact Int.le_min.mpr ⟨hone, by omega⟩

theorem date_moved (hm : x.moment? = some m) :
    (moved u m n).date = dateAfterMonths x.day (n * monthsPer u) := by
  simp only [Instant.moment?, Option.ite_none_right_eq_some, Option.some.injEq] at hm
  obtain ⟨-, rfl⟩ := hm
  simp only [moved, dateAfterMonths, monthArrived, ← Date.monthIndex_eq]

theorem toMillis_moved (hm : x.moment? = some m) :
    (moved u m n).toMillis =
      (dateAfterMonths x.day (n * monthsPer u)).toDay * dayMillis + x.timeOfDay := by
  have htime := x.timeOfDay_bounds
  have hmillis : ((moved u m n).time : Int) = x.timeOfDay := by
    simp only [Instant.moment?, Option.ite_none_right_eq_some, Option.some.injEq] at hm
    obtain ⟨-, rfl⟩ := hm
    exact Int.toNat_of_nonneg htime.1
  rw [Moment.toMillis, date_moved hm, hmillis]

/-! ## Adding months and years -/

theorem monthsIn?_eq_some_iff {months : Int64} :
    monthsIn? u amount = some months ↔ months.toInt = amount.toInt * monthsPer u := by
  have htwelve : (12 : Int64).toInt = 12 := by decide
  unfold monthsIn? monthsPer
  split
  · rw [Word.mul?, Word.fit?_eq_some_iff, htwelve]
  · rw [Option.some.injEq, Int.mul_one, Int64.toInt_inj, eq_comm]

theorem add_months_eq_ok_iff_moved (h : u.fixedMillis? = none) :
    add x u amount = .ok j ↔
      Word.Fits (amount.toInt * monthsPer u) ∧
        ∃ m, x.moment? = some m ∧ HasMonth (monthArrived u m.date amount.toInt) ∧
          j.moment? = some (moved u m amount.toInt) := by
  have hmonth : ∀ m, x.moment? = some m →
      monthArrived u m.date amount.toInt = monthOf x.day + amount.toInt * monthsPer u :=
    fun m hm => congrArg Date.monthIndex (date_moved hm)
  rw [add_months_eq_ok_iff h]
  simp only [monthsIn?_eq_some_iff]
  constructor
  · rintro ⟨months, hmonths, hday, harrived, hj⟩
    obtain ⟨m, hm⟩ := Instant.InCalendar.exists_moment (i := x) hday
    rw [hmonths] at harrived hj
    rw [← toMillis_moved hm] at hj
    rw [← hmonth m hm] at harrived
    have hexists := (Instant.moment?_eq_some_iff.mp hm).1
    exact ⟨hmonths ▸ Word.fits_toInt months, m, hm, harrived,
      Instant.moment?_eq_some_iff.mpr ⟨exists_moved hexists harrived, hj.symm⟩⟩
  · rintro ⟨hfits, m, hm, harrived, hj⟩
    obtain ⟨months, -, hmonths⟩ := Word.fit?_of_fits hfits
    have hday : HasDay x.day := (Option.ite_none_right_eq_some.mp hm).1
    refine ⟨months, hmonths, hday, ?_, ?_⟩
    · rw [hmonths, ← hmonth m hm]
      exact harrived
    · rw [hmonths, ← toMillis_moved hm]
      exact (Instant.moment?_eq_some_iff.mp hj).2.symm

theorem exists_add_months_iff (h : u.fixedMillis? = none) :
    (∃ j, add x u amount = .ok j) ↔
      Word.Fits (amount.toInt * monthsPer u) ∧
        ∃ m, x.moment? = some m ∧ firstYear ≤ monthArrived u m.date amount.toInt / 12 ∧
          monthArrived u m.date amount.toInt / 12 ≤ lastYear := by
  simp only [add_months_eq_ok_iff_moved h, ← hasMonth_iff]
  constructor
  · rintro ⟨j, hfits, m, hm, hmonth, -⟩
    exact ⟨hfits, m, hm, hmonth⟩
  · rintro ⟨hfits, m, hm, hmonth⟩
    have hmoved := exists_moved (Instant.moment?_eq_some_iff.mp hm).1 hmonth
    exact ⟨(moved u m amount.toInt).toInstant, hfits, m, hm, hmonth,
      Instant.moment?_eq_some_iff.mpr ⟨hmoved, hmoved.toInt_toInstant.symm⟩⟩

theorem exists_add_fixed_iff {length : Int64} (h : u.fixedMillis? = some length) :
    (∃ j, add x u amount = .ok j) ↔
      Word.Fits (amount.toInt * length.toInt) ∧
        Word.Fits (x.toInt + amount.toInt * length.toInt) := by
  simp only [add_fixed_eq_ok_iff h]
  constructor
  · rintro ⟨j, hfits, hj⟩
    exact ⟨hfits, hj ▸ j.fits_toInt⟩
  · rintro ⟨hfits, hsum⟩
    obtain ⟨j, hj⟩ := Instant.exists_toInt_eq hsum
    exact ⟨j, hfits, hj⟩

/-! ## The statement -/

/-- Adding is exact or fails.  An amount of a unit of fixed length is added exactly where the word
holds the product and the sum, and the sum is the result.  An amount of months or years is added
exactly where the word holds the number of months, the calendar has the instant, and it has the year
of the month arrived at; the result lies in that month, at the same time of day, on the same day or
the last one of the month.  The fault is that the result is out of range, and no other. -/
theorem add_exact (x : Instant) (u : CalendarUnit) (amount : Int64) :
    (∀ length, u.fixedMillis? = some length →
      ((∃ j, add x u amount = .ok j) ↔
        Word.Fits (amount.toInt * length.toInt) ∧
          Word.Fits (x.toInt + amount.toInt * length.toInt)) ∧
      ∀ j, add x u amount = .ok j → j.toInt = x.toInt + amount.toInt * length.toInt) ∧
    (u.fixedMillis? = none →
      ((∃ j, add x u amount = .ok j) ↔
        Word.Fits (amount.toInt * monthsPer u) ∧
          ∃ m, x.moment? = some m ∧ firstYear ≤ monthArrived u m.date amount.toInt / 12 ∧
            monthArrived u m.date amount.toInt / 12 ≤ lastYear) ∧
      ∀ j, add x u amount = .ok j → ∃ m m', x.moment? = some m ∧ j.moment? = some m' ∧
        m'.date.monthIndex = monthArrived u m.date amount.toInt ∧ m'.time = m.time ∧
        m'.date.day = min m.date.day (monthLength m'.date.monthIndex)) ∧
    ∀ fault, add x u amount = .error fault → fault = .instantOutOfRange x.millis := by
  refine ⟨?_, ?_, ?_⟩
  · intro length h
    exact ⟨exists_add_fixed_iff h, fun j hj => ((add_fixed_eq_ok_iff h).mp hj).2⟩
  · intro h
    refine ⟨exists_add_months_iff h, fun j hj => ?_⟩
    obtain ⟨-, m, hm, -, hj⟩ := (add_months_eq_ok_iff_moved h).mp hj
    exact ⟨m, _, hm, hj, rfl, rfl, rfl⟩
  · intro fault h
    exact (Instant.require_eq_error.mp h).2

/-- From the 29th of February of the year 0, one year back to the 28th. -/
theorem add_exact_before_zero :
    add ⟨-62162037000000⟩ .year (-1) = .ok ⟨-62193659400000⟩ ∧
      Instant.moment? ⟨-62162037000000⟩ = some ⟨⟨1, 29⟩, 84600000⟩ ∧
      Instant.moment? ⟨-62193659400000⟩ = some ⟨⟨-11, 28⟩, 84600000⟩ := by
  have hadd : add ⟨-62162037000000⟩ .year (-1) = .ok ⟨-62193659400000⟩ :=
    toOption_eq_some.mp (by decide +kernel)
  have hfrom : Instant.moment? ⟨-62162037000000⟩ = some ⟨⟨1, 29⟩, 84600000⟩ := by
    decide +kernel
  obtain ⟨m, ⟨⟨month, day⟩, time⟩, hm, hm', hmonth, htime, hday⟩ :=
    ((add_exact ⟨-62162037000000⟩ .year (-1)).2.1 rfl).2 _ hadd
  obtain rfl := Option.some.inj (hfrom.symm.trans hm)
  obtain rfl : month = -11 := hmonth.trans (by decide)
  obtain rfl : day = 28 := hday.trans (show min 29 (monthLength (-11)) = 28 by decide)
  obtain rfl : time = 84600000 := htime
  exact ⟨hadd, hfrom, hm'⟩

end Almanac.Calendar
