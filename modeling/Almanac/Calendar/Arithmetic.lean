import Almanac.Calendar.Moment
import Almanac.CalendarUnit
import Almanac.Fault
/-!
Adding and rounding by calendar units.

Units of fixed length are added and rounded on the millisecond count. Months and years move the
month of the date; the day of the month is cut back to the length of the month arrived at, and the
time of day stays. Every operation is exact or fails with the instant it started from.
-/

namespace Almanac

/-- A result that must exist; when it does not, the calculation from `i` left the range. -/
def Instant.require {α : Type} (i : Instant) : Option α → Except Fault α
  | some a => .ok a
  | none => .error (.instantOutOfRange i.millis)

namespace Calendar

/-! ## Adding -/

/-- The number of months in `amount` months or years, if a word can hold it. -/
def monthsIn? (u : CalendarUnit) (amount : Int64) : Option Int64 :=
  if u = .year then Word.mul? amount 12 else some amount

/-- The date `months` months after the date of a day, cut back to the length of its month. -/
def dateAfterMonths (day months : Int) : Date :=
  let d := Date.ofDay day
  ⟨d.monthIndex + months, min d.day (monthLength (d.monthIndex + months))⟩

/-- The instant `months` months later, when both lie in the supported calendar. -/
def addMonths? (i : Instant) (months : Int) : Option Instant :=
  let d := dateAfterMonths i.day months
  if i.InCalendar ∧ HasMonth d.monthIndex then
    Instant.ofInt? (d.toDay * dayMillis + i.timeOfDay)
  else none

/-- The instant `amount` units of `length` milliseconds later. -/
def addFixed? (i : Instant) (length amount : Int64) : Option Instant :=
  (Word.mul? amount length).bind fun delta => i.shift? delta.toInt

/-- The instant `amount` units later; a negative amount goes back. -/
def add (i : Instant) (u : CalendarUnit) (amount : Int64) : Except Fault Instant :=
  i.require <| match u.fixedMillis? with
    | some length => addFixed? i length amount
    | none => (monthsIn? u amount).bind fun months => addMonths? i months.toInt

/-! ## Rounding -/

/-- The month that begins the month or year of a month. -/
def firstMonth (u : CalendarUnit) (month : Int) : Int :=
  if u = .year then month - month % 12 else month

/-- The first millisecond of the unit that an instant lies in. -/
def roundDown (i : Instant) (u : CalendarUnit) : Except Fault Instant :=
  i.require <| match u.fixedMillis? with
    | some length => Instant.ofInt? (i.toInt - i.toInt % length.toInt)
    | none =>
      if i.InCalendar then Instant.ofInt? (monthStart (firstMonth u (monthOf i.day)) * dayMillis)
      else none

/-- The last millisecond of the unit that begins at `start`. -/
def endOfUnit (start : Instant) (u : CalendarUnit) : Except Fault Instant := do
  let next ← add start u 1
  start.require (next.shift? (-1))

/-- The last millisecond of the unit that an instant lies in. -/
def roundUp (i : Instant) (u : CalendarUnit) : Except Fault Instant := do
  endOfUnit (← roundDown i u) u

/-- The last millisecond of the unit that begins at `start` on a clock `offset` milliseconds
ahead of UTC. -/
def endOfUnitAt (start : Instant) (u : CalendarUnit) (offset : Int64) : Except Fault Instant := do
  let reading ← start.require (start.shift? offset.toInt)
  let last ← endOfUnit reading u
  start.require ((Word.neg? offset).bind fun back => last.shift? back.toInt)

end Calendar

end Almanac
