import Almanac.Regular.Fault
/-!
Regular expressions as they are written: trees in which each node knows its part of the text.
-/

namespace Almanac.Regular

/-! ## Leaves -/

/-- A character that stands for itself, however it is written. -/
structure Literal where
  extent : Extent
  char : Char
  /-- Whether it is written as a byte in two hexadecimal digits. -/
  asByte : Bool := false
deriving DecidableEq

inductive AsciiClass where
  | alnum
  | alpha
  | ascii
  | blank
  | cntrl
  | digit
  | graph
  | lower
  | print
  | punct
  | space
  | upper
  | word
  | xdigit
deriving DecidableEq

inductive Assertion where
  | lineStart
  | lineEnd
  | textStart
  | textEnd
  | boundary
  | noBoundary
  | wordStart
  | wordEnd
  | wordStartHalf
  | wordEndHalf
deriving DecidableEq

/-- A property of characters, by its name or by its name and its value. -/
structure Property where
  name : String
  value : Option String
deriving DecidableEq

/-- What an escape or a single sign stands for. -/
inductive Primitive where
  | literal (l : Literal)
  | dot (extent : Extent)
  | assertion (extent : Extent) (a : Assertion)
  | property (extent : Extent) (p : Property)
  /-- One of the classes that have a letter of their own. -/
  | shorthand (extent : Extent) (kind : AsciiClass) (negated : Bool)
deriving DecidableEq

def Primitive.extent : Primitive → Extent
  | .literal l => l.extent
  | .dot e | .assertion e _ | .property e _ | .shorthand e _ _ => e

/-! ## Classes in brackets -/

inductive SetOperator where
  | intersection
  | difference
  | symmetricDifference
deriving DecidableEq

/-- What is written between brackets. -/
inductive ClassTree where
  | empty (extent : Extent)
  | literal (l : Literal)
  | range (extent : Extent) (low high : Literal)
  | named (extent : Extent) (kind : AsciiClass) (negated : Bool)
  | property (extent : Extent) (p : Property)
  | shorthand (extent : Extent) (kind : AsciiClass) (negated : Bool)
  | bracketed (extent : Extent) (negated : Bool) (inner : ClassTree)
  | union (extent : Extent) (items : List ClassTree)
  | binary (extent : Extent) (operator : SetOperator) (left right : ClassTree)

def ClassTree.extent : ClassTree → Extent
  | .literal l => l.extent
  | .empty e | .range e _ _ | .named e _ _ | .property e _ | .shorthand e _ _
  | .bracketed e _ _ | .union e _ | .binary e _ _ _ => e

/-! ## Expressions -/

/-- Letters of flags and the dash that negates those after it, each with its place. -/
abbrev FlagList := List (Char × Extent)

/-- What a list of flags says about one of them, if it names it. -/
def flagState? (flag : Char) : FlagList → Option Bool
  | [] => none
  | (c, _) :: rest =>
    if c = '-' then if rest.any fun f => f.1 = flag then some false else none
    else if c = flag then some true
    else flagState? flag rest

inductive Tree where
  | empty (extent : Extent)
  | flags (extent : Extent) (items : FlagList)
  | primitive (p : Primitive)
  | bracketed (extent : Extent) (negated : Bool) (inner : ClassTree)
  /-- It is eager unless a question mark follows; an eager one tries the longest match first. -/
  | repetition (extent : Extent) (sub : Tree) (least : Nat) (most : Option Nat) (eager : Bool)
  | group (extent : Extent) (captures : Bool) (flags : FlagList) (sub : Tree)
  | alternation (extent : Extent) (branches : List Tree)
  | concat (extent : Extent) (items : List Tree)

def Tree.extent : Tree → Extent
  | .primitive p => p.extent
  | .empty e | .flags e _ | .bracketed e _ _ | .repetition e _ _ _ _ | .group e _ _ _
  | .alternation e _ | .concat e _ => e

/-! ## Depth -/

/-- The part of a node if it is nested too deep, or else the answer for what is inside. -/
def enter (depth : Nat) (e : Extent) (inner : Option Extent) : Option Extent :=
  if deepest ≤ depth then some e else inner

mutual

/-- The first part of a class, from the left and from outside, that is nested too deep. -/
def ClassTree.tooDeep? (depth : Nat) : ClassTree → Option Extent
  | .bracketed e _ inner => enter depth e (inner.tooDeep? (depth + 1))
  | .union e items => enter depth e (ClassTree.anyTooDeep? (depth + 1) items)
  | .binary e _ left right =>
    enter depth e (left.tooDeep? (depth + 1) <|> right.tooDeep? (depth + 1))
  | _ => none

def ClassTree.anyTooDeep? (depth : Nat) : List ClassTree → Option Extent
  | [] => none
  | t :: ts => t.tooDeep? depth <|> ClassTree.anyTooDeep? depth ts

end

mutual

/-- The first part of an expression, from the left and from outside, that is nested too deep. -/
def Tree.tooDeep? (depth : Nat) : Tree → Option Extent
  | .bracketed e _ inner => enter depth e (inner.tooDeep? (depth + 1))
  | .repetition e sub _ _ _ => enter depth e (sub.tooDeep? (depth + 1))
  | .group e _ _ sub => enter depth e (sub.tooDeep? (depth + 1))
  | .alternation e branches => enter depth e (Tree.anyTooDeep? (depth + 1) branches)
  | .concat e items => enter depth e (Tree.anyTooDeep? (depth + 1) items)
  | _ => none

def Tree.anyTooDeep? (depth : Nat) : List Tree → Option Extent
  | [] => none
  | t :: ts => t.tooDeep? depth <|> Tree.anyTooDeep? depth ts

end

end Almanac.Regular
