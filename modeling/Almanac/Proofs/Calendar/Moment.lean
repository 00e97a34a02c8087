import Almanac.Proofs.Calendar.Months
import Almanac.Proofs.Outcome
/-!
# Moments that exist

A moment exists if its date does and its time of day is less than a day.  The instants of the
supported calendar are the moments that exist, each of one of them (`moment?_eq_some_iff`), and the
parts of a moment add up to its time of day (`Moment.time_eq`).
-/

namespace Almanac

open Calendar

namespace Calendar

/-- A date of the supported calendar with a time of day. -/
structure Moment.Exists (m : Moment) : Prop where
  date : m.date.Exists
  time : m.time < 86400000

theorem Date.Exists.year_bounds {d : Date} (h : d.Exists) :
    firstYear ≤ d.year ∧ d.year ≤ lastYear := by
  have hmonth := h.hasMonth
  unfold HasMonth firstYear lastYear at hmonth
  unfold firstYear lastYear Date.year
  omega

theorem Date.Exists.day_bounds {d : Date} (h : d.Exists) : 1 ≤ d.day ∧ d.day ≤ 31 :=
  ⟨h.one_le_day, Int.le_trans h.day_le (monthLength_bounds d.monthIndex).2⟩

theorem Date.Exists.of?_eq {d : Date} (h : d.Exists) :
    Date.of? d.year d.month.toNat d.day.toNat = some d := by
  have hmonth := d.month_bounds
  have hday := h.one_le_day
  rw [Int.toNat_of_nonneg (by omega), Int.toNat_of_nonneg (by omega)]
  exact of?_eq_some_iff.mpr ⟨hmonth.1, hmonth.2, h, d.monthIndex_eq, rfl⟩

namespace Moment

variable {m : Moment}

theorem time_eq (m : Moment) :
    ((m.hour * 60 + m.minute) * 60 + m.second) * 1000 + m.millis = m.time := by
  unfold hour minute second millis
  omega

theorem Exists.timeOfDay?_eq (h : m.Exists) :
    timeOfDay? m.hour m.minute m.second 0 = some (m.time - m.millis) := by
  have htime := h.time
  have hhour : m.hour < 24 := by
    unfold hour
    omega
  have hminute : m.minute < 60 := Nat.mod_lt _ (by decide)
  have hsecond : m.second < 60 := Nat.mod_lt _ (by decide)
  rw [timeOfDay?, if_pos ⟨hhour, hminute, hsecond, by decide⟩, Nat.add_zero,
    Nat.eq_sub_of_add_eq m.time_eq]

theorem Exists.ediv_toMillis (h : m.Exists) : m.toMillis / dayMillis = m.date.toDay := by
  have htime := h.time
  unfold toMillis dayMillis
  omega

theorem Exists.toInt_toInstant (h : m.Exists) : m.toInstant.toInt = m.toMillis := by
  have htime := h.time
  have hday := h.date.hasDay.bounds
  refine Instant.toInt_nearest_of_fits (Word.fits_of_near ?_)
  unfold toMillis dayMillis
  omega

end Moment

end Calendar

namespace Instant

/-- The moment of an instant is the one that exists at its milliseconds. -/
theorem moment?_eq_some_iff {i : Instant} {m : Moment} :
    i.moment? = some m ↔ m.Exists ∧ m.toMillis = i.toInt := by
  constructor
  · intro h
    have hmillis := toMillis_of_moment? h
    have htime := timeOfDay_bounds i
    unfold moment? at h
    split at h
    · next hday =>
      cases h
      refine ⟨⟨Date.exists_ofDay hday, ?_⟩, hmillis⟩
      show i.timeOfDay.toNat < 86400000
      unfold dayMillis at htime
      omega
    · cases h
  · rintro ⟨h, hmillis⟩
    have hday : i.day = m.date.toDay := by
      rw [← h.ediv_toMillis, hmillis]
      rfl
    have htime : i.timeOfDay.toNat = m.time := by
      have hsum := day_mul_add_timeOfDay i
      rw [hday, ← hmillis, Moment.toMillis] at hsum
      omega
    have hin : i.InCalendar := by
      unfold InCalendar
      rw [hday]
      exact h.date.hasDay
    rw [moment?, if_pos hin, hday, htime, Date.ofDay_toDay h.date]

theorem day_mono {i j : Instant} (h : i ≤ j) : i.day ≤ j.day :=
  Int.ediv_le_ediv (by decide) h

theorem ext_day {i j : Instant} (hday : i.day = j.day) (htime : i.timeOfDay = j.timeOfDay) :
    i = j := by
  have hi := day_mul_add_timeOfDay i
  have hj := day_mul_add_timeOfDay j
  rw [hday, htime] at hi
  exact toInt_inj.mp (hi.symm.trans hj)

theorem lt_of_day_lt {i j : Instant} (h : i.day < j.day) : i < j := by
  have hj : ¬ j ≤ i := fun hle => Int.not_le.mpr h (day_mono hle)
  exact Int.not_le.mp hj

theorem InCalendar.exists_moment {i : Instant} (h : i.InCalendar) : ∃ m, i.moment? = some m :=
  ⟨_, if_pos h⟩

theorem inCalendar_of_toMillis {i : Instant} {m : Moment} (h : m.Exists)
    (hi : i.toInt = m.toMillis) : i.InCalendar := by
  unfold InCalendar day
  rw [hi, h.ediv_toMillis]
  exact h.date.hasDay

end Instant

end Almanac
