import Almanac.Regular.Expression
import Almanac.Regular.Literals
import Almanac.Regular.Nodes
import Almanac.Text.Bytes
/-!
The size of regular expressions: the bytes that programs for them take, which are limited.

The programs read a text byte by byte, one from its start on and the other from its end back. A
program has a node for each byte of a literal, for each condition and for each choice, tables for
sets of characters, and a copy of what is repeated for each time that is counted. The nodes are made
in a fixed order, because their numbers decide which nodes of sets are remembered.
-/

namespace Almanac.Regular

/-- The way in which a program goes through a text. -/
inductive Direction where
  | forward
  | backward
deriving DecidableEq

namespace Size

/-! ## Sets and literals -/

def set (d : Direction) (s : Charset) (t : Tally) : Tally :=
  if t.isFull then t
  else if s.isAscii then t.node.table s.length
  else
    match d with
    | .forward => Encoding.forward (Encoding.ofCharset s) t
    | .backward => Encoding.backward (Encoding.ofCharset s) t

/-- The bytes of a literal in the order in which they are read. -/
def bytes (d : Direction) (cs : List Char) : List UInt8 :=
  let bs := cs.flatMap String.utf8EncodeChar
  match d with
  | .forward => bs
  | .backward => bs.reverse

mutual

/-- The nodes of a choice from literals. Where none goes on there is nothing. -/
def literals : Literals → Tally → Tally
  | .node before since, t =>
    let rows := since :: before
    if rows.all (·.isEmpty) then t
    else
      let fork := t.fork ((rows.filter fun r => !r.isEmpty).length + before.length)
      allEntries before (entries since (rows.foldl (fun t r => t.row r.length) fork))

/-- The nodes of what continues after some bytes. -/
def entries : List (UInt8 × Literals) → Tally → Tally
  | [], t => t
  | (_, l) :: rest, t => entries rest (literals l t)

/-- The nodes of what continues after some lists of bytes. -/
def allEntries : List (List (UInt8 × Literals)) → Tally → Tally
  | [], t => t
  | es :: rest, t => allEntries rest (entries es t)

end

/-! ## Expressions -/

/-- The nodes of a repetition that is counted exactly. -/
def exactly (sub : Tally → Tally) (n : Nat) (t : Tally) : Tally :=
  if n = 0 then t.node else Tally.times sub n t

/-- The nodes of a repetition of something that always, or not always, reads a character. -/
def repetition (sub : Tally → Tally) (alwaysReads : Bool) (least : Nat) (most : Option Nat)
    (t : Tally) : Tally :=
  match least, most with
  | 0, none => if alwaysReads then sub (t.fork 2) else (((sub t).fork 2).fork 2).node
  | n, none => (Tally.times sub n t).fork 2
  | n, some m =>
    if n = m then exactly sub n t
    else if n = 0 && m = 1 then (sub (t.fork 2)).node
    else Tally.times (fun t => sub (t.fork 2)) (m - n) (exactly sub n t).node

mutual

/-- The nodes that match an expression. Only the forward program remembers what groups match. -/
def expression (d : Direction) : Expression → Tally → Tally
  | .empty, t | .look _, t => t.node
  | .literal cs, t => t.add (Text.byteLength cs)
  | .set _ s, t => set d s t
  | .captured _ e, t =>
    match d with
    | .forward => (expression d e t.node).node
    | .backward => expression d e t
  | .sequence es, t =>
    match d with
    | .forward => sequence es t
    | .backward => sequenceBack es t
  | .choice es, t =>
    match es.mapM Expression.literal? with
    | some css => literals (.ofList (css.map (bytes d))) t.node
    | none => choice d es t
  | .repeated least most _ e, t =>
    repetition (expression d e) (e.shortest?.any (0 < ·)) least most t

/-- The nodes that match some expressions, from the first one on. -/
def sequence : List Expression → Tally → Tally
  | [], t => t
  | e :: es, t => sequence es (expression .forward e t)

/-- The nodes that match some expressions, from the last one on. -/
def sequenceBack : List Expression → Tally → Tally
  | [], t => t
  | e :: es, t => expression .backward e (sequenceBack es t)

/-- The nodes that match one of some expressions. Those of the choice itself are made after the
second branch. -/
def choice (d : Direction) : List Expression → Tally → Tally
  | [], t => t.node
  | [e], t => expression d e t
  | e :: f :: es, t =>
    branches d es ((expression d f (expression d e t)).fork (es.length + 2)).node

def branches (d : Direction) : List Expression → Tally → Tally
  | [], t => t
  | e :: es, t => branches d es (expression d e t)

end

/-! ## Programs -/

mutual

/-- Whether all matches of an expression begin at the start of the text or, backward, end at its
end, as far as the expression says so there. -/
def isAnchored (d : Direction) : Expression → Bool
  | .look l => l = (match d with | .forward => .textStart | .backward => .textEnd)
  | .empty | .literal _ | .set _ _ => false
  | .captured _ e => isAnchored d e
  | .repeated least _ _ e => least ≠ 0 && isAnchored d e
  | .sequence es =>
    match d with
    | .forward => isAnchoredFirst es
    | .backward => isAnchoredLast es
  | .choice es => areAnchored d es

/-- Whether one of some expressions is anchored before any character is read. -/
def isAnchoredFirst : List Expression → Bool
  | [] => false
  | e :: es => isAnchored .forward e || (e.onlyLooks && isAnchoredFirst es)

/-- Whether one of some expressions is anchored after all characters are read. -/
def isAnchoredLast : List Expression → Bool
  | [] => false
  | e :: es => isAnchoredLast es || (Expression.allOnlyLook es && isAnchored .backward e)

def areAnchored (d : Direction) : List Expression → Bool
  | [] => true
  | e :: es => isAnchored d e && areAnchored d es

end

/-- The nodes of a program. Unless it is anchored, it first goes over any bytes. At its end is a
node for the match, and the forward program remembers where the match is. -/
def program (d : Direction) (e : Expression) : Tally :=
  let none : Tally := {}
  let start := if isAnchored d e then none.node else (none.fork 2).node.table 1
  match d with
  | .forward => (expression d e start.node).node.node
  | .backward => (expression d e start).node

def exceeds (d : Direction) (e : Expression) : Bool := (program d e).isFull

end Size

end Almanac.Regular
