/-!
Literals to choose from, by their first bytes.

Earlier literals are matched before later ones. What continues a literal that has ended is therefore
kept apart from what was added before its end.
-/

namespace Almanac.Regular

/-- Literals that continue in the same place, by their next bytes: those added before each of the
ends of literals there, and those added since. -/
inductive Literals where
  | node (before : List (List (UInt8 × Literals))) (since : List (UInt8 × Literals))

namespace Literals

/-- Nothing to choose from. -/
def none : Literals := .node [] []

/-- A literal ends here. Several ends without anything between or before them are one. -/
def close : Literals → Literals
  | .node before since =>
    if since.isEmpty && !before.isEmpty && before.all (·.isEmpty) then .node before since
    else .node (since :: before) []

/-- The entries after what comes after a byte has changed. -/
def alter (b : UInt8) (f : Literals → Literals) : List (UInt8 × Literals) → List (UInt8 × Literals)
  | [] => [(b, f none)]
  | (c, t) :: rest => if c = b then (c, f t) :: rest else (c, t) :: alter b f rest

def add : List UInt8 → Literals → Literals
  | [], t => t.close
  | b :: bs, .node before since => .node before (alter b (add bs) since)

def ofList (bs : List (List UInt8)) : Literals := bs.foldl (fun t b => t.add b) none

end Literals

end Almanac.Regular
