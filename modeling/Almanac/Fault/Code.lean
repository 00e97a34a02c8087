import Almanac.Text.Ascii
/-!
Numbered codes of faults, with a short description and help for those in use.

Codes 1 to 99 are faults of reading, 100 to 199 of resolution and 300 to 399 of configuration.
-/

namespace Almanac

structure Code where
  number : UInt16
deriving DecidableEq, Inhabited

structure CodeInfo where
  description : String
  help : Option String
deriving DecidableEq

namespace Code

def malformedTimestamp : Code := ⟨1⟩
def malformedMath : Code := ⟨2⟩
/-- A tolerance is neither a duration nor a number. -/
def badTolerance : Code := ⟨3⟩
/-- No stage of resolution accepts a value. -/
def unresolved : Code := ⟨100⟩
def instantOutOfRange : Code := ⟨101⟩
def badMapping : Code := ⟨300⟩
def badPattern : Code := ⟨301⟩

/-- The description and help of each code in use. -/
def table : List (Code × CodeInfo) :=
  [(malformedTimestamp, ⟨"Malformed timestamp",
      some "Canonical timestamps look like 2000-01-01T00:00:00.123Z"⟩),
    (malformedMath, ⟨"Malformed date math token",
      some "Math tokens are +<n><UNIT>, -<n><UNIT> or /<UNIT>, e.g. NOW-1DAY/DAY"⟩),
    (badTolerance, ⟨"Invalid tolerance value",
      some "Use a duration such as 30s, 1.5h, 2d or a number of milliseconds"⟩),
    (unresolved, ⟨"Unresolved date value",
      some "The value is neither in the field format, a date math expression nor a number"⟩),
    (instantOutOfRange, ⟨"Instant out of calendar range", none⟩),
    (badMapping, ⟨"Invalid field configuration", none⟩),
    (badPattern, ⟨"Invalid display pattern",
      some "Supported pattern letters: y u M d H h a m s S Z and quoted literals"⟩)]

/-- The description and help of a code; a code that is not in use is described as unknown. -/
def info (c : Code) : CodeInfo :=
  (table.lookup c).getD ⟨"Unknown error", none⟩

def isReading (c : Code) : Bool := 1 ≤ c.number && c.number < 100

def isResolution (c : Code) : Bool := 100 ≤ c.number && c.number < 200

def isConfiguration (c : Code) : Bool := 300 ≤ c.number && c.number < 400

/-- The written form is `DF` and at least four digits. -/
def render (c : Code) : String :=
  "DF" ++ String.ofList (Text.atLeast 4 c.number.toNat)

end Code

end Almanac
