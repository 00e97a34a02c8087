import Almanac.Calendar.Moment
import Almanac.Text.Ascii
/-!
The written fields of a moment: the year in at least four digits with a sign outside 0000 to 9999,
and all other fields in two digits.
-/

namespace Almanac.Calendar

/-- The year in at least four digits, with its sign outside 0000 to 9999. -/
def yearText (y : Int) : List Char :=
  if 0 ≤ y ∧ y ≤ 9999 then Text.padded 4 y.toNat
  else (if y < 0 then '-' else '+') :: Text.atLeast 4 y.natAbs

def twoText (n : Nat) : List Char := Text.padded 2 n

namespace Moment

/-- The date as `yyyy-MM-dd`. -/
def dateText (m : Moment) : List Char :=
  yearText m.date.year ++ '-' :: twoText m.date.month.toNat ++ '-' :: twoText m.date.day.toNat

/-- The time of day as `HH:mm:ss`. -/
def timeText (m : Moment) : List Char :=
  twoText m.hour ++ ':' :: twoText m.minute ++ ':' :: twoText m.second

/-- Date and time with a `T` between. -/
def text (m : Moment) : List Char := m.dateText ++ 'T' :: m.timeText

end Moment

end Almanac.Calendar
