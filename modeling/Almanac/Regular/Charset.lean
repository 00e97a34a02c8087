import Almanac.Regular.Tree
import Almanac.Text.Ranges
/-!
Sets of characters that regular expressions are made of.
-/

namespace Almanac.Regular

/-- A set of characters: ranges of code points that ascend, and of which no two overlap or touch. -/
abbrev Charset := Text.Ranges

namespace Charset

/-! ## Building -/

/-- Adds a range to ranges in descending order, none of which begins after it. -/
def extend (done : Text.Ranges) (r : Nat × Nat) : Text.Ranges :=
  match done with
  | [] => [r]
  | a :: rest => if r.1 ≤ a.2 + 1 then (a.1, max a.2 r.2) :: rest else r :: done

def ofRanges (rs : Text.Ranges) : Charset :=
  ((rs.mergeSort fun a b => a.1 ≤ b.1).foldl extend []).reverse

def empty : Charset := []

def greatest : Nat := 0x10FFFF

def full : Charset := [(0, greatest)]

/-- The set of the characters from one up to another. -/
def between (a b : Char) : Charset := [(a.toNat, b.toNat)]

def one (c : Char) : Charset := between c c

/-! ## Operations -/

/-- The code point of the next character; the numbers between the two ends of the surrogates stand
for no character. -/
def after (n : Nat) : Nat := if n = 0xD7FF then 0xE000 else n + 1

def before (n : Nat) : Nat := if n = 0xE000 then 0xD7FF else n - 1

/-- The ranges between others, from a code point on. Between two ranges that have only surrogates
between them, it is one that ends before it begins. -/
def gapsFrom (first : Nat) : Text.Ranges → Text.Ranges
  | [] => if first ≤ greatest then [(first, greatest)] else []
  | r :: rs => (if r.1 = 0 then [] else [(first, before r.1)]) ++ gapsFrom (after r.2) rs

/-- The characters that are not in a set. Of two ranges that have only surrogates between them, the
ends at these count as being between them. -/
def complement (s : Charset) : Charset :=
  (gapsFrom 0 s).map fun g => (min g.1 g.2, max g.1 g.2)

/-- The common part of two ranges, if they overlap. -/
def overlap? (a b : Nat × Nat) : Option (Nat × Nat) :=
  if max a.1 b.1 ≤ min a.2 b.2 then some (max a.1 b.1, min a.2 b.2) else none

def intersection (a b : Charset) : Charset := a.flatMap fun r => b.filterMap (overlap? r)

def union (a b : Charset) : Charset := ofRanges (a ++ b)

def difference (a b : Charset) : Charset := intersection a (gapsFrom 0 b)

def symmetricDifference (a b : Charset) : Charset := difference (union a b) (intersection a b)

/-- The characters of a set and the ASCII letters that are the other case of one. -/
def anyCase (s : Charset) : Charset :=
  let capitals := intersection s [(65, 90)]
  let small := intersection s [(97, 122)]
  ofRanges (s ++ capitals.map (fun r => (r.1 + 32, r.2 + 32))
    ++ small.map fun r => (r.1 - 32, r.2 - 32))

/-- The result of an operator on two sets. -/
def combine : SetOperator → Charset → Charset → Charset
  | .intersection => intersection
  | .difference => difference
  | .symmetricDifference => symmetricDifference

/-- A set, or its complement. -/
def negatedIf (negated : Bool) (s : Charset) : Charset := if negated then complement s else s

def isAscii (s : Charset) : Bool := s.all fun r => r.2 < 0x80

example : complement [(0, 9), (11, greatest)] = [(10, 10)] := by decide
example : intersection [(1, 5), (8, 9)] [(4, 8)] = [(4, 5), (8, 8)] := by decide
example : difference [(1, 9)] [(4, 5)] = [(1, 3), (6, 9)] := by decide

end Charset

def AsciiClass.characters : AsciiClass → Charset
  | .alnum => [(48, 57), (65, 90), (97, 122)]
  | .alpha => [(65, 90), (97, 122)]
  | .ascii => [(0, 127)]
  | .blank => [(9, 9), (32, 32)]
  | .cntrl => [(0, 31), (127, 127)]
  | .digit => [(48, 57)]
  | .graph => [(33, 126)]
  | .lower => [(97, 122)]
  | .print => [(32, 126)]
  | .punct => [(33, 47), (58, 64), (91, 96), (123, 126)]
  | .space => [(9, 13), (32, 32)]
  | .upper => [(65, 90)]
  | .word => [(48, 57), (65, 90), (95, 95), (97, 122)]
  | .xdigit => [(48, 57), (65, 70), (97, 102)]

def isWordCharacter (c : Char) : Bool := Text.Ranges.has AsciiClass.word.characters c

end Almanac.Regular
