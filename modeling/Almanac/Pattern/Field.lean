import Almanac.CalendarUnit
import Almanac.Calendar.Written
/-!
The fields of a date pattern.

A field is named by a run of one letter: `y`, `u` or `Y` for the year, `M` for the month, `d` for
the day, `E` for the day of the week, `H` for the hour, `h` with `a` for the clock hour with its
half of the day, `m` and `s` for minute and second, `S` for a fraction of a second, and `Z` for the
offset.
-/

namespace Almanac.Pattern

inductive Field where
  | year
  /-- The year modulo one hundred. -/
  | yearOfCentury
  | month
  | monthName (long : Bool)
  | day
  | weekdayName (long : Bool)
  | hour
  /-- The hour on a clock face, from 1 to 12. -/
  | clockHour
  /-- The half of the day, `AM` or `PM`. -/
  | half
  | minute
  | second
  /-- A fraction of a second in three, six or nine digits. -/
  | fraction (digits : Nat)
  /-- The offset from UTC, written with or without a colon. -/
  | offset (colon : Bool)
deriving DecidableEq

namespace Field

/-- The calendar unit that a field spells out. -/
def unit? : Field → Option CalendarUnit
  | .year | .yearOfCentury => some .year
  | .month | .monthName _ => some .month
  | .day => some .day
  | .hour | .clockHour => some .hour
  | .minute => some .minute
  | .second => some .second
  | .fraction _ => some .millisecond
  | .weekdayName _ | .half | .offset _ => none

/-- The number of digits of a fraction of `count` letters. -/
def fractionDigits (count : Nat) : Nat := if count ≤ 3 then 3 else if count ≤ 6 then 6 else 9

/-- The field of a run of one letter, if there is one. -/
def ofRun? (letter : Char) (count : Nat) : Option Field :=
  if letter = 'y' ∨ letter = 'u' ∨ letter = 'Y' then
    some (if count = 2 then .yearOfCentury else .year)
  else if letter = 'M' then some (if count ≤ 2 then .month else .monthName (3 < count))
  else if letter = 'E' then some (.weekdayName (3 < count))
  else if letter = 'S' then some (.fraction (fractionDigits count))
  else if letter = 'a' then if count = 1 then some .half else none
  else if 2 < count then none
  else if letter = 'd' then some .day
  else if letter = 'H' then some .hour
  else if letter = 'h' then some .clockHour
  else if letter = 'm' then some .minute
  else if letter = 's' then some .second
  else if letter = 'Z' then some (.offset (count = 2))
  else none

/-! ## Names -/

def monthNames : List String :=
  ["January", "February", "March", "April", "May", "June", "July", "August", "September",
    "October", "November", "December"]

def weekdayNames : List String :=
  ["Monday", "Tuesday", "Wednesday", "Thursday", "Friday", "Saturday", "Sunday"]

/-- A name in its long form or cut to three letters. -/
def nameText (long : Bool) (name : String) : List Char :=
  if long then name.toList else name.toList.take 3

def nameAt (names : List String) (index : Nat) : String := (names[index]?).getD ""

/-! ## Writing -/

def onClockFace (hour : Nat) : Nat := if hour % 12 = 0 then 12 else hour % 12

/-- A field of a moment in UTC as it is written. -/
def text (m : Calendar.Moment) : Field → List Char
  | .year => Calendar.yearText m.date.year
  | .yearOfCentury => Calendar.twoText (m.date.year % 100).toNat
  | .month => Calendar.twoText m.date.month.toNat
  | .monthName long => nameText long (nameAt monthNames (m.date.month - 1).toNat)
  | .day => Calendar.twoText m.date.day.toNat
  | .weekdayName long => nameText long (nameAt weekdayNames (Calendar.weekdayOf m.date.toDay))
  | .hour => Calendar.twoText m.hour
  | .clockHour => Calendar.twoText (onClockFace m.hour)
  | .half => if m.hour < 12 then ['A', 'M'] else ['P', 'M']
  | .minute => Calendar.twoText m.minute
  | .second => Calendar.twoText m.second
  | .fraction digits => Text.padded 3 m.millis ++ List.replicate (digits - 3) '0'
  | .offset true => ['+', '0', '0', ':', '0', '0']
  | .offset false => ['+', '0', '0', '0', '0']

end Field

end Almanac.Pattern
