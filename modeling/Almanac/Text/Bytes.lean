/-!
Texts as bytes: the length of a text in UTF-8, and the text that a sequence of bytes stands for.

Offsets into a text count bytes. Bytes that are not UTF-8 are read with replacement: each maximal
part that begins a character without completing it, and each byte that begins none, becomes one
U+FFFD.
-/

namespace Almanac.Text

/-- The number of bytes of a text in UTF-8. -/
def byteLength : List Char → Nat
  | [] => 0
  | c :: cs => c.utf8Size + byteLength cs

theorem byteLength_append (a b : List Char) :
    byteLength (a ++ b) = byteLength a + byteLength b := by
  induction a with
  | nil => simp [byteLength]
  | cons c a ih => simp [byteLength, ih, Nat.add_assoc]

/-- The character that stands for bytes that are not text. -/
def replacement : Char := '\uFFFD'

/-- What the bytes read so far allow next: a new character, or a continuation byte from `low` to
`high` after which `left` more ones follow and the character's number begins with `bits`. -/
inductive Decoding where
  | fresh
  | within (bits left low high : Nat)
deriving DecidableEq

/-- Begins a character at a byte: the characters that it completes and what may follow. -/
def Decoding.start (b : Nat) : List Char × Decoding :=
  if b < 0x80 then ([Char.ofNat b], .fresh)
  else if 0xC2 ≤ b ∧ b ≤ 0xDF then ([], .within (b - 0xC0) 0 0x80 0xBF)
  else if b = 0xE0 then ([], .within 0 1 0xA0 0xBF)
  else if b = 0xED then ([], .within 0xD 1 0x80 0x9F)
  else if 0xE1 ≤ b ∧ b ≤ 0xEF then ([], .within (b - 0xE0) 1 0x80 0xBF)
  else if b = 0xF0 then ([], .within 0 2 0x90 0xBF)
  else if 0xF1 ≤ b ∧ b ≤ 0xF3 then ([], .within (b - 0xF0) 2 0x80 0xBF)
  else if b = 0xF4 then ([], .within 4 2 0x80 0x8F)
  else ([replacement], .fresh)

/-- Reads one byte. A byte that cannot continue the open character ends it as a replacement and
begins the next one. -/
def Decoding.step (b : Nat) : Decoding → List Char × Decoding
  | .fresh => start b
  | .within bits left low high =>
    if low ≤ b ∧ b ≤ high then
      match left with
      | 0 => ([Char.ofNat (bits * 64 + b % 64)], .fresh)
      | left + 1 => ([], .within (bits * 64 + b % 64) left 0x80 0xBF)
    else (replacement :: (start b).1, (start b).2)

/-- The characters that the bytes stand for, from a given state on. -/
def Decoding.run : Decoding → List UInt8 → List Char
  | .fresh, [] => []
  | .within .., [] => [replacement]
  | d, b :: bs => (d.step b.toNat).1 ++ run (d.step b.toNat).2 bs

/-- The text that the bytes stand for, with a replacement for each malformed part. -/
def ofBytes (bytes : List UInt8) : List Char := Decoding.fresh.run bytes

def toBytes (cs : List Char) : List UInt8 := cs.flatMap String.utf8EncodeChar

example : ofBytes [0x61, 0xE2, 0x82, 0x61, 0xFF] = ['a', replacement, 'a', replacement] := by decide
example : ofBytes [0xED, 0xA0, 0x80] = [replacement, replacement, replacement] := by decide

end Almanac.Text
