import Almanac.Pattern.Reader
import Almanac.Timestamp.OptionalTime
/-!
Layouts: the display format of a field.

A layout is written as alternatives with two bars between them, each the name of the default format
or a date pattern. A text is read by the first alternative that accepts it, and instants are written
by the first of all.
-/

namespace Almanac

namespace Layout

/-- One way to read and write instants. -/
inductive Alternative where
  | dateOptionalTime
  | pattern (p : Pattern)
deriving DecidableEq

def Alternative.read (text : List Char) : Alternative → Except Fault Reading
  | .dateOptionalTime => Timestamp.readOptionalTime text
  | .pattern p => p.read text

def Alternative.write (i : Instant) : Alternative → Except Fault (List Char)
  | .dateOptionalTime => Timestamp.writeOptionalTime i
  | .pattern p => p.write i

end Layout

/-- A compiled display format: its alternatives, of which there is at least one. -/
structure Layout where
  /-- The format as it was written. -/
  spec : String
  first : Layout.Alternative
  others : List Layout.Alternative
deriving DecidableEq

namespace Layout

def defaultName : String := "dateOptionalTime"

def defaultNames : List String := [defaultName, "date_optional_time"]

/-- The default layout. -/
def default : Layout := ⟨defaultName, .dateOptionalTime, []⟩

instance : Inhabited Layout := ⟨default⟩

/-! ## Compiling -/

/-- The pieces of a text between pairs of bars, from the left: the first one and the others. -/
def pieces : List Char → List Char × List (List Char)
  | [] => ([], [])
  | '|' :: '|' :: cs => ([], (pieces cs).1 :: (pieces cs).2)
  | c :: cs => (c :: (pieces cs).1, (pieces cs).2)

/-- The place of a fault of a part of a format in the whole of it. -/
def placeFault (spec : String) (start : Nat) : Fault → Fault
  | .badPattern _ span message => .badPattern spec (span.shifted start) message
  | other => other

/-- Compiles one piece of a format, which begins at a byte offset. Blanks at its ends are ignored,
and something else must be there. -/
def compilePiece (spec : String) (offset : Nat) (piece : List Char) :
    Except Fault Alternative :=
  let leading := Text.byteLength piece - Text.byteLength (Text.trimStart piece)
  let name := Text.trim piece
  if name = [] then
    .error (.badPattern spec (.point (offset + leading)) "empty format alternative")
  else if String.ofList name ∈ defaultNames then .ok .dateOptionalTime
  else ((Pattern.compile name).map .pattern).mapError (placeFault spec (offset + leading))

/-- Compiles the pieces of a format, the first of which begins at a byte offset. -/
def compilePieces (spec : String) (offset : Nat) : List (List Char) →
    Except Fault (List Alternative)
  | [] => .ok []
  | piece :: rest => do
    let alternative ← compilePiece spec offset piece
    let alternatives ← compilePieces spec (offset + Text.byteLength piece + 2) rest
    return alternative :: alternatives

def compile (spec : String) : Except Fault Layout := do
  let (piece, rest) := pieces spec.toList
  let first ← compilePiece spec 0 piece
  let others ← compilePieces spec (Text.byteLength piece + 2) rest
  return ⟨spec, first, others⟩

/-! ## Use -/

def alternatives (l : Layout) : List Alternative := l.first :: l.others

/-- Whether this is the default format under one of its names. -/
def isDefault (l : Layout) : Bool := l.alternatives = [.dateOptionalTime]

/-- The reading of the first alternative that accepts a text, or else a given fault. -/
def readFirst (text : List Char) (fault : Fault) : List Alternative → Except Fault Reading
  | [] => .error fault
  | a :: rest =>
    match a.read text with
    | .ok reading => .ok reading
    | .error _ => readFirst text fault rest

/-- Reads a text by the first alternative that accepts it. When none does, the fault of the first
alternative is reported. -/
def read (l : Layout) (text : List Char) : Except Fault Reading :=
  match l.first.read text with
  | .ok reading => .ok reading
  | .error fault => readFirst text fault l.others

/-- Writes an instant by the first alternative. -/
def write (l : Layout) (i : Instant) : Except Fault (List Char) := l.first.write i

end Layout

end Almanac
