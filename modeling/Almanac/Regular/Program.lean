import Almanac.Regular.Expression
/-!
Programs that match regular expressions: nodes in a row, each of which goes on to the next one
unless it says otherwise. After the last node an expression has matched.

All nodes that a match can be at are followed together, from one place of the text to the next.
-/

namespace Almanac.Regular

inductive Node where
  /-- Goes on by one character of a set. -/
  | read (s : Charset)
  /-- Goes on if a condition holds. -/
  | check (l : Look)
  /-- Goes on to another node. -/
  | jump (target : Nat)
  /-- Goes on to the next node and to another. -/
  | fork (target : Nat)
deriving DecidableEq

abbrev Program := Array Node

namespace Program

/-! ## Building -/

/-- A node whose target is not known yet. -/
def unknown : Node := .jump 0

/-- A program after which an expression is matched once or more. -/
def repeatOnce (step : Program → Program) (p : Program) : Program :=
  let first := p.size
  (step p).push (.fork first)

/-- A program after which an expression is matched any number of times. -/
def repeatFreely (step : Program → Program) (p : Program) : Program :=
  let first := p.size
  let q := (step (p.push unknown)).push (.jump first)
  q.set! first (.fork q.size)

/-- A program after which some part, which may go to a node after itself, is added. That node is
the one after the first. -/
def withExit (part : Nat → Program → Program) (p : Program) : Program :=
  let exit := p.size + 1
  let q := part exit ((p.push (.jump (exit + 1))).push unknown)
  q.set! exit (.jump q.size)

/-- A program after which an expression is matched a number of times or fewer. -/
def repeatUpTo (step : Program → Program) (n : Nat) (p : Program) : Program :=
  withExit (fun exit => Nat.repeat (fun q => step (q.push (.fork exit))) n) p

mutual

/-- The program after which an expression is matched. A repetition is not counted further than a
bound: after as many steps as a text has places, another step leads to no other places. -/
def add (bound : Nat) : Expression → Program → Program
  | .empty, p => p
  | .literal cs, p => cs.foldl (fun p c => p.push (.read (.one c))) p
  | .set _ s, p => p.push (.read s)
  | .look l, p => p.push (.check l)
  | .captured _ e, p => add bound e p
  | .sequence es, p => addAll bound es p
  | .choice es, p => withExit (fun exit p => addAny bound exit es p) p
  | .repeated least most _ e, p =>
    match least, most with
    | 0, none => repeatFreely (add bound e) p
    | n + 1, none => repeatOnce (add bound e) (Nat.repeat (add bound e) (min n bound) p)
    | n, some m =>
      repeatUpTo (add bound e) (min (m - n) bound) (Nat.repeat (add bound e) (min n bound) p)

/-- The program after which some expressions are matched one after the other. -/
def addAll (bound : Nat) : List Expression → Program → Program
  | [], p => p
  | e :: es, p => addAll bound es (add bound e p)

/-- The program after which one of some expressions is matched, each of which then goes to an
exit. -/
def addAny (bound exit : Nat) : List Expression → Program → Program
  | [], p => p.push (.read .empty)
  | e :: es, p =>
    let first := p.size
    let q := (add bound e (p.push unknown)).push (.jump exit)
    addAny bound exit es (q.set! first (.fork q.size))

end

/-- The program of an expression for texts with as many places as a bound, or fewer. -/
def ofExpression (bound : Nat) (e : Expression) : Program := add bound e #[]

/-! ## Running -/

/-- A place in a text: the characters around it and its number. -/
structure Spot where
  number : Nat
  before : Option Char
  after : Option Char

/-- The nodes reached at a place: for each node, the number after that of the last place where it
was reached, the nodes that read, and whether the end was reached. -/
structure Reached where
  marks : Array Nat
  readers : List Nat
  finished : Bool

/-- The nodes to which a node goes on without reading, before others. -/
def onward (spot : Spot) (index : Nat) (others : List Nat) : Node → List Nat
  | .read _ => others
  | .check l => if l.holds spot.before spot.after then (index + 1) :: others else others
  | .jump target => target :: others
  | .fork target => (index + 1) :: target :: others

/-- The nodes that read, with a node if it is one. -/
def withReader (index : Nat) (readers : List Nat) : Node → List Nat
  | .read _ => index :: readers
  | _ => readers

/-- Follows nodes at a place as far as nothing is read, for some number of nodes at most, up to the
end of the program. -/
def follow (p : Program) (spot : Spot) : Nat → List Nat → Array Nat → List Nat → Reached
  | 0, _, marks, readers => ⟨marks, readers, false⟩
  | _, [], marks, readers => ⟨marks, readers, false⟩
  | fuel + 1, index :: others, marks, readers =>
    if h : index < p.size then
      if marks.getD index 0 = spot.number + 1 then follow p spot fuel others marks readers
      else
        follow p spot fuel (onward spot index others p[index])
          (marks.set! index (spot.number + 1)) (withReader index readers p[index])
    else ⟨marks, readers, true⟩

/-- The nodes after those that read a character. -/
def advance (p : Program) (c : Char) (readers : List Nat) : List Nat :=
  readers.filterMap fun index =>
    match p[index]? with
    | some (Node.read s) => if Text.Ranges.has s c then some (index + 1) else none
    | _ => none

/-- Whether a match begins in the rest of a text or one that has begun ends there. Each node goes
on to two others at most, so that no more than all of them and those at the start are followed. -/
def search (p : Program) (number : Nat) (before : Option Char) (text : List Char)
    (entries : List Nat) (marks : Array Nat) : Bool :=
  let spot : Spot := ⟨number, before, text.head?⟩
  let r := follow p spot (entries.length + 2 * p.size + 2) (0 :: entries) marks []
  r.finished ||
    match text with
    | [] => false
    | c :: cs => search p (number + 1) (some c) cs (advance p c r.readers) r.marks

def found (p : Program) (text : List Char) : Bool :=
  search p 0 none text [] (.replicate p.size 0)

end Program

def Expression.found (e : Expression) (text : List Char) : Bool :=
  (Program.ofExpression (text.length + 1) e).found text

example : (Expression.repeated 2 none true (.literal ['a'])).found ['b', 'a', 'a'] = true := by
  decide +kernel

example : (Expression.sequence [.look .textStart, .literal ['a']]).found ['b', 'a'] = false := by
  decide +kernel

end Almanac.Regular
