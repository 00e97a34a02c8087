import Almanac.Text.Bytes
/-!
Places in a text: spans of bytes, and locations with line and column.

Offsets and lengths count bytes; lines and columns count from one, and a column counts characters.
-/

namespace Almanac

/-- A range of bytes, from `start` up to but not including `stop`. -/
structure Span where
  /-- Offset of the first byte. -/
  start : Nat
  /-- Offset after the last byte. -/
  stop : Nat
deriving DecidableEq, Inhabited

namespace Span

/-- The empty span at an offset. -/
def point (offset : Nat) : Span := ⟨offset, offset⟩

/-- The number of bytes in the span; none when it ends before it starts. -/
def length (s : Span) : Nat := s.stop - s.start

def isEmpty (s : Span) : Bool := s.stop ≤ s.start

/-- The span moved by `offset` bytes, for a text that begins there within a larger one. -/
def shifted (s : Span) (offset : Nat) : Span := ⟨s.start + offset, s.stop + offset⟩

/-- The span of `width` bytes from `start`, cut off at the end of a text of `size` bytes. -/
def clipped (size start width : Nat) : Span :=
  ⟨min start size, min (min start size + width) size⟩

/-- The written form is both ends with two dots between. -/
def render (s : Span) : String := toString s.start ++ ".." ++ toString s.stop

end Span

/-! ## Lines and columns -/

/-- Line and column, each from one. -/
structure Position where
  line : Nat
  column : Nat
deriving DecidableEq

/-- The position after one character. -/
def Position.advance (p : Position) (c : Char) : Position :=
  if c = '\n' then ⟨p.line + 1, 1⟩ else ⟨p.line, p.column + 1⟩

/-- The position reached from `p` over the characters that start within `bytes` bytes. -/
def Position.over (p : Position) : Nat → List Char → Position
  | 0, _ => p
  | _, [] => p
  | bytes + 1, c :: cs => (p.advance c).over (bytes + 1 - c.utf8Size) cs

/-- The position of a byte offset in a text; past the end, that of the end. -/
def Position.ofOffset (text : String) (offset : Nat) : Position :=
  (⟨1, 1⟩ : Position).over offset text.toList

/-- Where a span lies in a text. -/
structure Location where
  line : Nat
  column : Nat
  /-- Byte offset from the start of the text. -/
  offset : Nat
  /-- Length in bytes. -/
  length : Nat
deriving DecidableEq, Inhabited

namespace Location

def ofSpan (s : Span) (text : String) : Location :=
  let p := Position.ofOffset text s.start
  ⟨p.line, p.column, s.start, s.length⟩

/-- The bytes that the location covers. -/
def span (l : Location) : Span := ⟨l.offset, l.offset + l.length⟩

/-- The written form is line and column with a colon between. -/
def render (l : Location) : String := toString l.line ++ ":" ++ toString l.column

end Location

end Almanac
