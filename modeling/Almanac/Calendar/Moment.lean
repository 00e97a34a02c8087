import Almanac.Calendar.Date
import Almanac.Instant
/-!
Moments: instants taken apart into a calendar date and a time of day, in UTC.

Every day has 86400000 milliseconds; there are no leap seconds among instants.
-/

namespace Almanac

namespace Calendar

def dayMillis : Int := 86400000

/-- The time of day from its hour, minute, second and millisecond, if a clock shows it. -/
def timeOfDay? (hour minute second millis : Nat) : Option Nat :=
  if hour < 24 ∧ minute < 60 ∧ second < 60 ∧ millis < 1000 then
    some (((hour * 60 + minute) * 60 + second) * 1000 + millis)
  else none

/-- A calendar date and the milliseconds since its midnight. -/
structure Moment where
  date : Date
  time : Nat
deriving DecidableEq

namespace Moment

/-- Milliseconds from the epoch to a moment. -/
def toMillis (m : Moment) : Int := m.date.toDay * dayMillis + m.time

def toInstant (m : Moment) : Instant := .nearest m.toMillis

/-- The hour of the day, from 0 to 23. -/
def hour (m : Moment) : Nat := m.time / 3600000
def minute (m : Moment) : Nat := m.time / 60000 % 60
def second (m : Moment) : Nat := m.time / 1000 % 60
def millis (m : Moment) : Nat := m.time % 1000

end Moment

end Calendar

namespace Instant

open Calendar

/-- The day of an instant, counted from 1970-01-01. -/
def day (i : Instant) : Int := i.toInt / dayMillis

/-- The milliseconds since midnight. -/
def timeOfDay (i : Instant) : Int := i.toInt % dayMillis

/-- An instant of the supported calendar. -/
def InCalendar (i : Instant) : Prop := HasDay i.day

instance (i : Instant) : Decidable i.InCalendar := inferInstanceAs (Decidable (HasDay i.day))

/-- The date and time of an instant of the supported calendar. -/
def moment? (i : Instant) : Option Moment :=
  if i.InCalendar then some ⟨.ofDay i.day, i.timeOfDay.toNat⟩ else none

theorem day_mul_add_timeOfDay (i : Instant) : i.day * dayMillis + i.timeOfDay = i.toInt := by
  unfold day timeOfDay dayMillis
  omega

theorem timeOfDay_bounds (i : Instant) : 0 ≤ i.timeOfDay ∧ i.timeOfDay < dayMillis := by
  unfold timeOfDay dayMillis
  omega

theorem toMillis_of_moment? {i : Instant} {m : Moment} (h : i.moment? = some m) :
    m.toMillis = i.toInt := by
  unfold moment? at h
  split at h
  · cases h
    have h1 := day_mul_add_timeOfDay i
    have h2 := timeOfDay_bounds i
    simp only [Moment.toMillis, Date.toDay_ofDay]
    omega
  · cases h

end Instant

end Almanac
