import Almanac.Regular.Encoding
import Std.Data.HashMap
/-!
Counting the nodes of programs and the bytes that they take.

Nodes are numbered in the order in which they are made. Within one set of characters, a node is used
again for equal contents as long as it is remembered: contents decide on a slot, and a slot
remembers the last node that was made for it.
-/

namespace Almanac.Regular

/-! ## Counts -/

/-- The nodes of a program so far, and the bytes that they take besides their own size. -/
structure Tally where
  nodes : Nat := 0
  extra : Nat := 0
deriving DecidableEq

namespace Tally

def size (t : Tally) : Nat := 32 * t.nodes + t.extra

def largest : Nat := 10485760

def isFull (t : Tally) : Bool := largest < t.size

def add (t : Tally) (n : Nat) : Tally := { t with nodes := t.nodes + n }

def node (t : Tally) : Tally := t.add 1

/-- One more node, which goes on to some number of others. -/
def fork (t : Tally) (n : Nat) : Tally := ⟨t.nodes + 1, t.extra + 4 * n⟩

/-- One more node with ranges of bytes, each of which leads somewhere. -/
def table (t : Tally) (n : Nat) : Tally := ⟨t.nodes + 1, t.extra + 8 * n⟩

/-- A table with some number of single bytes: there is none for no bytes, and a node without ranges
for one. -/
def row (t : Tally) (n : Nat) : Tally := if n = 0 then t else if n = 1 then t.node else t.table n

/-- Makes nodes a number of times, unless the program is too large already. -/
def times (step : Tally → Tally) : Nat → Tally → Tally
  | 0, t => t
  | n + 1, t => if t.isFull then t else times step n (step t)

end Tally

/-! ## Nodes that are remembered -/

/-- The nodes so far and, by its slot, the last node that was made there, with its contents. -/
structure Memory where
  tally : Tally
  slots : Nat
  kept : Std.HashMap Nat (List Nat × Nat) := {}

namespace Memory

/-- The slot of some contents: numbers are mixed one after the other into a word. -/
def slot (slots : Nat) (contents : List Nat) : Nat :=
  (contents.foldl (fun h n => (h ^^^ n.toUInt64) * 1099511628211)
    (14695981039346656037 : UInt64)).toNat % slots

/-- The number of a node with some contents, which is made as a table with some number of ranges
unless it is remembered. -/
def use (m : Memory) (make : Tally → Tally) (contents : List Nat) : Nat × Memory :=
  let k := slot m.slots contents
  match m.kept[k]? with
  | some (c, n) => if c = contents then (n, m) else made k
  | none => made k
where
  /-- The number of a new node in a slot. -/
  made (k : Nat) : Nat × Memory :=
    let n := m.tally.nodes
    (n, { m with tally := make m.tally, kept := m.kept.insert k (contents, n) })

end Memory

/-! ## Sets -/

namespace Encoding

/-- The number of the node that reads encodings with some number of bytes at most, where all that is
read leads to a last node. -/
def useTable (stop : Nat) : Nat → List ByteRanges → Memory → Nat × Memory
  | 0, _, m => (stop, m)
  | fuel + 1, rows, m =>
    if rows = [[]] then (stop, m)
    else
      let groups := byFirst rows
      let (contents, m) := groups.foldl (fun (found : List Nat × Memory) g =>
        let (next, m) := useTable stop fuel g.2 found.2
        (next :: g.1.2 :: g.1.1 :: found.1, m)) ([], m)
      m.use (·.table groups.length) contents.reverse

/-- The nodes that read encodings from the first byte on. -/
def forward (rows : List ByteRanges) (t : Tally) : Tally :=
  (useTable t.nodes 4 rows { tally := t.node, slots := 10000 }).2.tally

/-- The nodes that read encodings from the last byte on. They are shared from the first byte on: the
nodes of each encoding lead from its last byte to its first one and then to a last node. -/
def backward (rows : List ByteRanges) (t : Tally) : Tally :=
  let stop := t.nodes + 1
  let m : Memory := { tally := (t.fork rows.length).node, slots := 1000 }
  (rows.foldl (fun m row =>
    (row.foldl (fun (found : Nat × Memory) r =>
      found.2.use Tally.node [found.1, r.1, r.2]) (stop, m)).2) m).tally

end Encoding

end Almanac.Regular
