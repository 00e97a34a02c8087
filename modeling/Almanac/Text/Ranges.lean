/-!
Sets of characters as inclusive ranges of code points.
-/

namespace Almanac.Text

/-- Inclusive ranges of code points. -/
abbrev Ranges := List (Nat × Nat)

namespace Ranges

/-- Whether a character is in one of the ranges. -/
def has (rs : Ranges) (c : Char) : Bool := rs.any fun r => r.1 ≤ c.toNat && c.toNat ≤ r.2

/-- Whether ranges ascend from a code point on, with at least one code point between two of them. -/
def ascendFrom (least : Nat) : Ranges → Bool
  | [] => true
  | r :: rs => least ≤ r.1 && r.1 ≤ r.2 && ascendFrom (r.2 + 2) rs

/-- The number of code points in ranges that ascend. -/
def size (rs : Ranges) : Nat := rs.foldl (fun n r => n + (r.2 + 1 - r.1)) 0

theorem has_append (a b : Ranges) (c : Char) : has (a ++ b) c = (has a c || has b c) := by
  simp [has]

end Ranges

end Almanac.Text
