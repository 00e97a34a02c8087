import Almanac.Timestamp.Canonical
/-!
Dates with an optional time: `yyyy-MM-dd[THH[:mm[:ss[.fraction]]]][Z|±HH[[:]mm]]`.

This is the display format of a field that names no other. The date is required, so that a bare
run of digits is never one. Written, all fields down to the millisecond appear, and the zone `Z`.
-/

namespace Almanac.Timestamp

open Calendar

/-- The fields of a time of day as far as they are written, and the finest unit among them. -/
structure PartialTime where
  hour : Nat
  minute : Nat
  second : Nat
  millis : Nat
  precision : CalendarUnit

namespace PartialTime

/-- No time at all: midnight, to the day. -/
def midnight : PartialTime := ⟨0, 0, 0, 0, .day⟩

/-- The milliseconds since midnight, if a clock shows the time. -/
def toMillis? (t : PartialTime) : Option Nat := timeOfDay? t.hour t.minute t.second t.millis

end PartialTime

/-! ## Reading -/

/-- The fraction, if a point follows the seconds. -/
def scanOptionalFraction (t : PartialTime) : Scan PartialTime := do
  if ← Scan.takes '.' then
    return { t with millis := ← scanFraction, precision := .millisecond }
  else return t

/-- The seconds and what follows them, if a colon follows the minutes. -/
def scanOptionalSecond (t : PartialTime) : Scan PartialTime := do
  if ← Scan.takes ':' then
    let second ← Scan.field "a 2-digit second" 2 two?
    scanOptionalFraction { t with second, precision := .second }
  else return t

/-- The minutes and what follows them, if a colon follows the hours. -/
def scanOptionalMinute (t : PartialTime) : Scan PartialTime := do
  if ← Scan.takes ':' then
    let minute ← Scan.field "a 2-digit minute" 2 two?
    scanOptionalSecond { t with minute, precision := .minute }
  else return t

/-- The time, if a `T` follows the date, and its milliseconds since midnight. -/
def scanOptionalTime : Scan (Nat × CalendarUnit) := do
  let start ← get
  let t ←
    if ← Scan.takes 'T' then
      let hour ← Scan.field "a 2-digit hour" 2 two?
      scanOptionalMinute { PartialTime.midnight with hour, precision := .hour }
    else pure .midnight
  match t.toMillis? with
  | some time => return (time, t.precision)
  | none => Scan.failFrom start .noSuchTime

def startsWithDigit : List Char → Bool
  | c :: _ => c.isDigit
  | [] => false

/-- The hours and minutes of an offset after its sign, in minutes. -/
def scanOffset : Scan (Nat × Nat) := do
  let hours ← Scan.field "a 2-digit offset hour" 2 two?
  let minutes ←
    if (← Scan.takes ':') || startsWithDigit (← get) then
      Scan.field "a 2-digit offset minute" 2 two?
    else pure 0
  return (hours, minutes)

def greatestOffsetHours : Nat := 18

/-- The offset after its sign, which `start` begins with. -/
def scanSignedOffset (start : List Char) (sign : Int) : Scan Int := do
  let (hours, minutes) ← scanOffset
  if greatestOffsetHours < hours ∨ 59 < minutes then Scan.failFrom start .offsetTooLarge
  else return sign * (hours * 60 + minutes)

/-- The zone: `Z`, an offset, or none; in minutes ahead of UTC. -/
def scanZone : Scan Int := do
  let start ← get
  if ← Scan.takes 'Z' then return 0
  else if ← Scan.takes '+' then scanSignedOffset start 1
  else if ← Scan.takes '-' then scanSignedOffset start (-1)
  else return 0

structure OptionalTime where
  moment : Moment
  precision : CalendarUnit
  /-- Minutes ahead of UTC. -/
  offset : Int

def scanDateOptionalTime : Scan OptionalTime := do
  let date ← scanDate
  let (time, precision) ← scanOptionalTime
  let offset ← scanZone
  Scan.finish
  return ⟨⟨date, time⟩, precision, offset⟩

/-- Reads a date with optional time; its precision is the finest unit that is written. -/
def readOptionalTime (text : List Char) : Except Fault Reading := do
  let parts ← scanDateOptionalTime.run text
  let clock := parts.moment.toInstant
  let instant ← clock.require (clock.shift? (-(parts.offset * 60000)))
  return ⟨instant, parts.precision, Int64.ofInt (parts.offset * 60000)⟩

/-! ## Writing -/

/-- The full form of a moment, with three digits of fraction and the zone `Z`. -/
def fullText (m : Moment) : List Char := m.text ++ '.' :: Text.padded 3 m.millis ++ ['Z']

/-- Writes an instant of the supported calendar in full. -/
def writeOptionalTime (i : Instant) : Except Fault (List Char) :=
  i.require (i.moment?.map fullText)

end Almanac.Timestamp
