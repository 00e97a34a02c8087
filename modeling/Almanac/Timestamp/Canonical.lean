import Almanac.Calendar.Arithmetic
import Almanac.Calendar.Written
import Almanac.Reading
import Almanac.Timestamp.Scan
/-!
Canonical timestamps: `yyyy-MM-ddTHH:mm:ss[.fraction][Z]`, always in UTC.

They are the anchors of date math and the form in which stored instants are shown. Written, the
fraction has no trailing zeros and is left out when it is zero, and no zone is added.
-/

namespace Almanac.Timestamp

open Calendar

/-! ## Reading -/

/-- A date `yyyy-MM-dd` that the calendar has. -/
def scanDate : Scan Date := do
  let start ← get
  let year ← Scan.field "a 4-digit year" 4 year?
  Scan.mark '-' "after year"
  let month ← Scan.field "a 2-digit month" 2 two?
  Scan.mark '-' "after month"
  let day ← Scan.field "a 2-digit day" 2 two?
  match Date.of? year month day with
  | some date => return date
  | none => Scan.failFrom start .noSuchDate

/-- A time of day `HH:mm:ss`, in milliseconds. -/
def scanTime : Scan Nat := do
  let start ← get
  let hour ← Scan.field "a 2-digit hour" 2 two?
  Scan.mark ':' "after hour"
  let minute ← Scan.field "a 2-digit minute" 2 two?
  Scan.mark ':' "after minute"
  let second ← Scan.field "a 2-digit second" 2 two?
  match timeOfDay? hour minute second 0 with
  | some time => return time
  | none => Scan.failFrom start .noSuchTime

/-- The milliseconds of a fraction after its point. -/
def scanFraction : Scan Nat := do
  return fractionMillis (← Scan.field "fraction digits after '.'" 1 digits?)

/-- The whole seconds of a canonical timestamp, and the milliseconds of its fraction if it has
one. -/
def scanCanonical : Scan (Moment × Option Nat) := do
  let date ← scanDate
  Scan.mark 'T' "between date and time"
  let time ← scanTime
  let fraction ← if ← Scan.takes '.' then some <$> scanFraction else pure none
  let _ ← Scan.takes 'Z'
  Scan.finish
  return (⟨date, time⟩, fraction)

/-- Reads a canonical timestamp. Its precision is the second, or the millisecond when it has a
fraction. -/
def readCanonical (text : List Char) : Except Fault Reading := do
  let (moment, fraction) ← scanCanonical.run text
  let whole := moment.toInstant
  let instant ← whole.require (whole.shift? (fraction.getD 0))
  return .utc instant (if fraction.isSome then .millisecond else .second)

/-! ## Writing -/

/-- A fraction of a second with its point and without trailing zeros; nothing when it is zero. -/
def fractionText (millis : Nat) : List Char :=
  if millis = 0 then []
  else '.' :: ((Text.padded 3 millis).reverse.dropWhile (· = '0')).reverse

def canonicalText (m : Moment) : List Char := m.text ++ fractionText m.millis

/-- Writes an instant of the supported calendar in canonical form. -/
def writeCanonical (i : Instant) : Except Fault (List Char) :=
  i.require (i.moment?.map canonicalText)

end Almanac.Timestamp
