import Almanac.Decimal
import Almanac.Fault
import Almanac.Text.Blank
import Almanac.Text.Integer
/-!
Tolerances of similarity queries: durations such as `90s`, `1.5h` or `500ms`, or whole numbers of
milliseconds. A duration is cut to whole milliseconds, and no tolerance is negative.
-/

namespace Almanac.Tolerance

/-- The units of durations and their milliseconds. -/
def units : List (String × Nat) :=
  [("ms", 1), ("s", 1000), ("m", 60000), ("h", 3600000), ("d", 86400000), ("w", 604800000)]

/-- The milliseconds of a unit in any ASCII case. -/
def factor? (unit : List Char) : Option Nat :=
  (units.find? fun u => u.1.toList == Text.lower unit).map Prod.snd

/-- Whether a character belongs to the number of a duration. -/
def isNumeral (c : Char) : Bool := c.isDigit || c = '.'

/-- The milliseconds of a duration, if the text is one and a word can hold them. -/
def duration? (cs : List Char) : Option Int64 := do
  let factor ← factor? (cs.dropWhile isNumeral)
  let number ← Decimal.read? (cs.takeWhile isNumeral)
  let product ← number.times? factor
  Word.fit? product.trunc

/-- The milliseconds of a duration or of a signed number. -/
def millis? (cs : List Char) : Option Int64 := duration? cs <|> Text.word? cs

/-- Reads a tolerance; blanks at its ends are ignored. -/
def read (text : String) : Except Fault Int64 :=
  match millis? (Text.trim text.toList) with
  | none => .error (.badTolerance text
      "expected a duration such as 1d or 90s, or a number of milliseconds")
  | some n =>
    if n.toInt < 0 then .error (.badTolerance text "tolerance must not be negative") else .ok n

end Almanac.Tolerance
