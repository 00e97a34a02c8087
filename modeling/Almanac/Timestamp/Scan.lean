import Almanac.Fault
import Almanac.Text.Ascii
/-!
Scanning timestamps from left to right.

A scan takes the text that is left and gives a value and the text that is left after it, or a slip:
the text that was left where the mistake begins, the width of the mistake, and what is wrong.
`Slip.toFault` turns a slip into a fault of the whole text.
-/

namespace Almanac.Timestamp

inductive Problem where
  /-- A field is missing or malformed. -/
  | missing (what : String)
  /-- A separator is missing. -/
  | missingMark (mark : Char) (place : String)
  | noSuchDate
  | noSuchTime
  | offsetTooLarge
  /-- Text follows the end of the timestamp. -/
  | trailing (rest : List Char)

def Problem.message : Problem → String
  | .missing what => "expected " ++ what
  | .missingMark mark place => "expected '" ++ mark.toString ++ "' " ++ place
  | .noSuchDate => "no such calendar date"
  | .noSuchTime => "no such time of day"
  | .offsetTooLarge => "zone offset out of range"
  | .trailing rest => "unexpected trailing text '" ++ String.ofList rest ++ "'"

/-- A mistake in a timestamp. -/
structure Slip where
  /-- The text that was left where the mistake begins. -/
  rest : List Char
  /-- The bytes that the mistake takes, at most; it also ends with the text. -/
  width : Nat
  problem : Problem

/-- The span of a slip in the text of which its rest is the end. -/
def Slip.span (s : Slip) (text : List Char) : Span :=
  .clipped (Text.byteLength text) (Text.byteLength text - Text.byteLength s.rest) s.width

def Slip.toFault (s : Slip) (text : List Char) : Fault :=
  .malformedTimestamp (String.ofList text) (s.span text) s.problem.message

/-- A scan of the text that is left. -/
abbrev Scan (α : Type) := StateT (List Char) (Except Slip) α

namespace Scan

/-- Runs a scan on a text; slips become faults of it. -/
def run {α : Type} (scan : Scan α) (text : List Char) : Except Fault α :=
  match StateT.run scan text with
  | .ok r => .ok r.1
  | .error slip => .error (slip.toFault text)

/-- Fails with a problem that begins where `rest` was left and goes on to the present place. -/
def failFrom {α : Type} (rest : List Char) (problem : Problem) : Scan α := fun left =>
  .error ⟨rest, Text.byteLength rest - Text.byteLength left, problem⟩

/-- Takes a field with a reader, or misses it at the present place. -/
def field {α : Type} (what : String) (width : Nat)
    (read? : List Char → Option (α × List Char)) : Scan α := fun left =>
  match read? left with
  | some r => .ok r
  | none => .error ⟨left, width, .missing what⟩

/-- Takes a separator, or misses it at the present place. -/
def mark (c : Char) (place : String) : Scan Unit := fun left =>
  match left with
  | [] => .error ⟨left, 1, .missingMark c place⟩
  | d :: rest => if d = c then .ok ((), rest) else .error ⟨left, 1, .missingMark c place⟩

/-- Takes a character if it is next, and says whether it was. -/
def takes (c : Char) : Scan Bool := fun left =>
  match left with
  | [] => .ok (false, left)
  | d :: rest => if d = c then .ok (true, rest) else .ok (false, left)

/-- Refuses text that is left. -/
def finish : Scan Unit := fun left =>
  match left with
  | [] => .ok ((), [])
  | _ :: _ => .error ⟨left, Text.byteLength left, .trailing left⟩

end Scan

/-! ## Fields -/

/-- A number of exactly `n` digits. -/
def fixed? (n : Nat) (cs : List Char) : Option (Nat × List Char) :=
  if (cs.take n).length = n ∧ (cs.take n).all Char.isDigit then
    some (Text.number (cs.take n), cs.drop n)
  else none

def two? : List Char → Option (Nat × List Char) := fixed? 2

/-- A run of at least one digit. -/
def digits? (cs : List Char) : Option (List Char × List Char) :=
  if cs.takeWhile Char.isDigit = [] then none
  else some (cs.takeWhile Char.isDigit, cs.dropWhile Char.isDigit)

/-- The greatest year that is read at all. -/
def greatestYear : Nat := 2147483647

/-- The number of a year without its sign: all the digits that follow, four at least. -/
def yearNumber? (cs : List Char) : Option (Nat × List Char) :=
  let ds := cs.takeWhile Char.isDigit
  if 4 ≤ ds.length ∧ Text.number ds ≤ greatestYear then
    some (Text.number ds, cs.dropWhile Char.isDigit)
  else none

/-- A year: an optional sign and at least four digits. -/
def year? : List Char → Option (Int × List Char)
  | '-' :: cs => (yearNumber? cs).map fun r => (-(r.1 : Int), r.2)
  | '+' :: cs => (yearNumber? cs).map fun r => ((r.1 : Int), r.2)
  | cs => (yearNumber? cs).map fun r => ((r.1 : Int), r.2)

/-- The whole milliseconds in a fraction of a second: its first three digits, filled up with
zeros. The digits after the third are dropped and never rounded. -/
def fractionMillis (digits : List Char) : Nat :=
  Text.number ((digits ++ ['0', '0', '0']).take 3)

end Almanac.Timestamp
