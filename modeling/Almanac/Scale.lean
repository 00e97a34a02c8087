import Almanac.Text.Ascii
import Almanac.Word
/-!
Scales: the unit in which a field reads bare integers.

A scale is fixed once for a field. A bare integer such as 1609459200 counts units of the scale and
is multiplied into milliseconds, exactly or not at all.
-/

namespace Almanac

/-- The unit of bare integers. -/
inductive Scale where
  | milliseconds
  | seconds
  | minutes
  | hours
  | days
deriving DecidableEq, Inhabited

namespace Scale

def all : List Scale := [.milliseconds, .seconds, .minutes, .hours, .days]

/-- Milliseconds in one unit. -/
def factor : Scale → Int64
  | .milliseconds => 1
  | .seconds => 1000
  | .minutes => 60000
  | .hours => 3600000
  | .days => 86400000

/-- The milliseconds in `value` units, if a word can hold them. -/
def toMillis? (s : Scale) (value : Int64) : Option Int64 := Word.mul? value s.factor

def name : Scale → String
  | .milliseconds => "milliseconds"
  | .seconds => "seconds"
  | .minutes => "minutes"
  | .hours => "hours"
  | .days => "days"

/-- The scale of a name in any ASCII case. -/
def ofName? (name : String) : Option Scale :=
  all.find? fun s => Text.sameLetters s.name.toList name.toList

/-- What is said of a name that no scale has. -/
def unknown (name : String) : String := "unknown unit '" ++ name ++ "'"

theorem ofName?_name (s : Scale) : ofName? s.name = some s := by
  cases s <;> decide

end Scale

end Almanac
