import Almanac.Regular.Charset
/-!
Sets of characters as sets of UTF-8 texts.

A set is cut into pieces that are each encoded by all bytes of some ranges, one range for each
byte.
-/

namespace Almanac.Regular

/-- Ranges of bytes, one for each byte of an encoding. -/
abbrev ByteRanges := List (Nat × Nat)

namespace Encoding

/-! ## Pieces -/

/-- The last code points before the surrogates and of each length of encodings. -/
def limits : List Nat := [0xD7FF, 0x7F, 0x7FF, 0xFFFF]

/-- The numbers of code points that differ in the last byte of their encodings, in the last two and
in the last three. -/
def blocks : List Nat := [0x40, 0x1000, 0x40000]

/-- The last code point of the first piece of a range that goes over the ends of a block without
having all of the blocks that it begins and ends in. -/
def cutInBlocks? (low high block : Nat) : Option Nat :=
  if low / block = high / block then none
  else if low % block ≠ 0 then some (low / block * block + (block - 1))
  else if high % block ≠ block - 1 then some (high / block * block - 1)
  else none

/-- The last code point of the first piece of a range that has to be cut. -/
def cut? (low high : Nat) : Option Nat :=
  match limits.find? fun n => low ≤ n && n < high with
  | some n => some n
  | none => if high ≤ 0x7F then none else blocks.findSome? (cutInBlocks? low high)

/-- The pieces of a range, in ascending order. -/
def pieces (low high : Nat) : List (Nat × Nat) :=
  match cut? low high with
  | none => [(low, high)]
  | some n =>
    if _h : low ≤ n ∧ n < high then pieces low n ++ pieces (Charset.after n) high
    else [(low, high)]
termination_by high - low
decreasing_by
  · omega
  · unfold Charset.after
    split <;> omega

def bytes (n : Nat) : List Nat := (String.utf8EncodeChar (Char.ofNat n)).map UInt8.toNat

/-- The ranges of the bytes that encode a piece. -/
def ofPiece (r : Nat × Nat) : ByteRanges := (bytes r.1).zip (bytes r.2)

def ofCharset (s : Charset) : List ByteRanges :=
  s.flatMap fun r => (pieces r.1 r.2).map ofPiece

/-! ## First bytes -/

/-- Encodings, by the range of the first byte; those with the same range are side by side. -/
def byFirst : List ByteRanges → List ((Nat × Nat) × List ByteRanges)
  | [] => []
  | [] :: rows => byFirst rows
  | (r :: row) :: rows =>
    match byFirst rows with
    | (r', rows') :: rest =>
      if r = r' then (r, row :: rows') :: rest else (r, [row]) :: (r', rows') :: rest
    | [] => [(r, [row])]

example : ofPiece (0xE9, 0xE9) = [(0xC3, 0xC3), (0xA9, 0xA9)] := by decide

end Encoding

end Almanac.Regular
