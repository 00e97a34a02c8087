import Almanac.Text.Ascii
/-!
Calendar units, from the year to the millisecond.

They are the units of date math, and the precision of a timestamp is the finest unit that its text
spells out. Days and finer units have a fixed length; months and years have not.
-/

namespace Almanac

/-- A calendar unit, in order from the coarsest to the finest. -/
inductive CalendarUnit where
  | year
  | month
  | day
  | hour
  | minute
  | second
  | millisecond
deriving DecidableEq, Inhabited

namespace CalendarUnit

/-- All units, from the coarsest to the finest. -/
def all : List CalendarUnit := [.year, .month, .day, .hour, .minute, .second, .millisecond]

/-- The place of a unit in the order from coarse to fine. -/
def rank : CalendarUnit → Nat
  | .year => 0
  | .month => 1
  | .day => 2
  | .hour => 3
  | .minute => 4
  | .second => 5
  | .millisecond => 6

instance : LE CalendarUnit := ⟨fun u v => u.rank ≤ v.rank⟩
instance (u v : CalendarUnit) : Decidable (u ≤ v) := inferInstanceAs (Decidable (u.rank ≤ v.rank))

def finer (u v : CalendarUnit) : CalendarUnit := if u ≤ v then v else u

/-- The length of a unit in milliseconds, when it is the same everywhere in the calendar. -/
def fixedMillis? : CalendarUnit → Option Int64
  | .year | .month => none
  | .day => some 86400000
  | .hour => some 3600000
  | .minute => some 60000
  | .second => some 1000
  | .millisecond => some 1

def name : CalendarUnit → String
  | .year => "year"
  | .month => "month"
  | .day => "day"
  | .hour => "hour"
  | .minute => "minute"
  | .second => "second"
  | .millisecond => "millisecond"

/-- The unit of a name, in lower case only. -/
def ofName? (name : String) : Option CalendarUnit := all.find? fun u => u.name == name

/-! ## Unit words of date math -/

/-- The word that date math writes for a unit. -/
def word : CalendarUnit → String
  | .year => "YEAR"
  | .month => "MONTH"
  | .day => "DAY"
  | .hour => "HOUR"
  | .minute => "MINUTE"
  | .second => "SECOND"
  | .millisecond => "MILLI"

/-- The words that date math reads for a unit, each in the singular. -/
def words : CalendarUnit → List String
  | .day => ["DAY", "DATE"]
  | .millisecond => ["MILLI", "MILLISECOND"]
  | u => [u.word]

/-- Whether a word in upper case is a unit word, in the singular or with one `S` added. -/
def isSpelled (u : CalendarUnit) (cs : List Char) : Bool :=
  u.words.any fun w => cs == w.toList || cs == w.toList ++ ['S']

/-- The unit of a unit word in any ASCII case. -/
def ofWord? (cs : List Char) : Option CalendarUnit :=
  all.find? fun u => u.isSpelled (Text.upper cs)

theorem ofName?_name (u : CalendarUnit) : ofName? u.name = some u := by
  cases u <;> decide

theorem ofWord?_word (u : CalendarUnit) : ofWord? u.word.toList = some u := by
  cases u <;> decide

end CalendarUnit

end Almanac
