import Almanac.Text.Ascii
import Almanac.Word
/-!
Signed integers in text: an optional sign and at least one ASCII digit, and nothing else.
-/

namespace Almanac.Text

/-- The number that an unsigned run of digits stands for, if it is one. -/
def natural? (cs : List Char) : Option Nat :=
  if cs ≠ [] ∧ cs.all Char.isDigit then some (number cs) else none

/-- The integer that an optionally signed run of digits stands for, if it is one. -/
def integer? : List Char → Option Int
  | '-' :: cs => (natural? cs).map fun n => -(n : Int)
  | '+' :: cs => (natural? cs).map fun n => (n : Int)
  | cs => (natural? cs).map fun n => (n : Int)

/-- The word that an optionally signed run of digits stands for, if it is one and fits. -/
def word? (cs : List Char) : Option Int64 := (integer? cs).bind Word.fit?

end Almanac.Text
