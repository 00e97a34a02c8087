import Almanac.Calendar.Moment
/-!
Findings: the field values that a pattern has found in a text, and the moment they add up to.

A value that is found twice must be the same both times. Fields that the pattern leaves out take
their least value. A day of the week and a year of the century must agree with the date.
-/

namespace Almanac.Pattern

/-- Why a text does not match a pattern. -/
inductive Mismatch where
  | outOfRange
  | impossible
  | notEnough
  | invalid
  | tooShort
  | tooLong
deriving DecidableEq

def Mismatch.message : Mismatch → String
  | .outOfRange => "input is out of range"
  | .impossible => "no possible date and time matching input"
  | .notEnough => "input is not enough for unique date and time"
  | .invalid => "input contains invalid characters"
  | .tooShort => "premature end of input"
  | .tooLong => "trailing input"

/-- The field values found so far. -/
structure Findings where
  year : Option Int := none
  yearOfCentury : Option Nat := none
  month : Option Nat := none
  day : Option Nat := none
  /-- The day of the week, from 0 for Monday. -/
  weekday : Option Nat := none
  /-- The half of the day, 0 or 1. -/
  half : Option Nat := none
  /-- The hour within the half of the day, from 0 to 11. -/
  hourInHalf : Option Nat := none
  minute : Option Nat := none
  /-- The second, up to 60 for a leap second. -/
  second : Option Nat := none
  /-- The nanoseconds of the fraction. -/
  nanos : Option Nat := none
  /-- The seconds by which the clock is ahead of UTC. -/
  offset : Option Int := none
deriving DecidableEq

namespace Findings

/-- A value next to one that may have been found before. -/
def agree {α : Type} [DecidableEq α] (old : Option α) (value : α) :
    Except Mismatch (Option α) :=
  match old with
  | none => .ok (some value)
  | some v => if v = value then .ok (some v) else .error .impossible

/-- A value that must lie in a range. -/
def inRange (low high : Nat) (value : Nat) : Except Mismatch Nat :=
  if low ≤ value ∧ value ≤ high then .ok value else .error .outOfRange

/-! ## Adding a value -/

/-- Adds a year; years beyond 32 bits are refused. -/
def setYear (f : Findings) (value : Int) : Except Mismatch Findings :=
  if -2147483648 ≤ value ∧ value ≤ 2147483647 then do
    return { f with year := ← agree f.year value }
  else .error .outOfRange

def setYearOfCentury (f : Findings) (value : Nat) : Except Mismatch Findings := do
  return { f with yearOfCentury := ← agree f.yearOfCentury (← inRange 0 99 value) }

/-- Adds a month, from 1. -/
def setMonth (f : Findings) (value : Nat) : Except Mismatch Findings := do
  return { f with month := ← agree f.month (← inRange 1 12 value) }

/-- Adds a day of the month, from 1. -/
def setDay (f : Findings) (value : Nat) : Except Mismatch Findings := do
  return { f with day := ← agree f.day (← inRange 1 31 value) }

def setWeekday (f : Findings) (value : Nat) : Except Mismatch Findings := do
  return { f with weekday := ← agree f.weekday value }

def setHalf (f : Findings) (value : Nat) : Except Mismatch Findings := do
  return { f with half := ← agree f.half value }

def setHourInHalf (f : Findings) (value : Nat) : Except Mismatch Findings := do
  return { f with hourInHalf := ← agree f.hourInHalf value }

/-- An hour of the day sets the half of the day and the hour within it. -/
def setHour (f : Findings) (value : Nat) : Except Mismatch Findings := do
  let hour ← inRange 0 23 value
  (← f.setHalf (hour / 12)).setHourInHalf (hour % 12)

/-- An hour on the clock face sets the hour within the half; twelve stands at its start. -/
def setClockHour (f : Findings) (value : Nat) : Except Mismatch Findings := do
  f.setHourInHalf ((← inRange 1 12 value) % 12)

def setMinute (f : Findings) (value : Nat) : Except Mismatch Findings := do
  return { f with minute := ← agree f.minute (← inRange 0 59 value) }

/-- Adds a second, which may be a leap second. -/
def setSecond (f : Findings) (value : Nat) : Except Mismatch Findings := do
  return { f with second := ← agree f.second (← inRange 0 60 value) }

/-- Adds the nanoseconds of a fraction. -/
def setNanos (f : Findings) (value : Nat) : Except Mismatch Findings := do
  return { f with nanos := ← agree f.nanos value }

/-- Adds an offset in seconds. -/
def setOffset (f : Findings) (value : Int) : Except Mismatch Findings := do
  return { f with offset := ← agree f.offset value }

/-! ## Adding up -/

/-- The century that a two-digit year is taken in: the twenty-first up to 69. -/
def centuryOf (yearOfCentury : Nat) : Nat := if yearOfCentury < 70 then 2000 else 1900

/-- The year, from the full year and the year of the century. -/
def fullYear (f : Findings) : Except Mismatch Int :=
  match f.year, f.yearOfCentury with
  | some y, none => .ok y
  | some y, some r => if 0 ≤ y ∧ y % 100 = r then .ok y else .error .impossible
  | none, some r => .ok (centuryOf r + r)
  | none, none => .error .notEnough

/-- The date, which the day of the week must agree with. -/
def date (f : Findings) : Except Mismatch Calendar.Date := do
  let year ← f.fullYear
  match f.month, f.day with
  | some month, some day =>
    match Calendar.Date.of? year month day with
    | none => .error .outOfRange
    | some date =>
      if f.weekday.all (· = Calendar.weekdayOf date.toDay) then .ok date else .error .impossible
  | _, _ => .error .notEnough

/-- A time of day in whole seconds, and the milliseconds after them; a leap second counts as one
second more after its predecessor. -/
structure ClockTime where
  seconds : Nat
  millis : Nat
deriving DecidableEq

/-- The seconds within the minute that a second field stands for, and the milliseconds of a leap
second. -/
def secondParts (second : Nat) : Nat × Nat := if second = 60 then (59, 1000) else (second, 0)

/-- The time of day. A fraction needs a second. -/
def clockTime (f : Findings) : Except Mismatch ClockTime :=
  match f.half, f.hourInHalf, f.minute with
  | some half, some hour, some minute =>
    let (second, leap) := secondParts (f.second.getD 0)
    let seconds := ((half * 12 + hour) * 60 + minute) * 60 + second
    match f.second, f.nanos with
    | none, some _ => .error .notEnough
    | _, nanos => .ok ⟨seconds, leap + nanos.getD 0 / 1000000⟩
  | _, _, _ => .error .notEnough

end Findings

end Almanac.Pattern
