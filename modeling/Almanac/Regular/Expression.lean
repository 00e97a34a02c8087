import Almanac.Regular.Charset
/-!
Regular expressions in their normal form.

Expressions are put together by `sequenceOf`, `choiceOf`, `repetition` and `ofSet`, which leave out
what makes no difference: a sequence has no sequences and no empty items in it and no two literals
side by side, a choice has no choices in it, and what all branches of a choice begin with stands
before it.
-/

namespace Almanac.Regular

/-! ## Conditions on places -/

/-- What a condition on words says about the characters before and after a place. -/
inductive WordLook where
  | boundary
  | noBoundary
  | start
  | finish
  | startHalf
  | finishHalf
deriving DecidableEq

/-- Conditions on a place in a text. -/
inductive Look where
  | textStart
  | textEnd
  /-- The start of the text or after a line feed. -/
  | rowStart
  /-- The end of the text or before a line feed. -/
  | rowEnd
  /-- The start of the text or after the end of a row, where a carriage return with a line feed is
  one end. -/
  | lineStart
  /-- The end of the text or before the end of a row, where a carriage return with a line feed is
  one end. -/
  | lineEnd
  /-- A condition on words of ASCII characters. -/
  | word (w : WordLook)
  /-- A condition on words of any characters, which cannot be decided here. -/
  | anyWord (w : WordLook)
deriving DecidableEq

/-- Whether a condition on words holds between something that is part of a word or not. -/
def WordLook.holds (before after : Bool) : WordLook → Bool
  | .boundary => before != after
  | .noBoundary => before == after
  | .start => !before && after
  | .finish => before && !after
  | .startHalf => !before
  | .finishHalf => !after

/-- Whether a condition holds between the characters before a place and after it. -/
def Look.holds (before after : Option Char) : Look → Bool
  | .textStart => before.isNone
  | .textEnd => after.isNone
  | .rowStart => before.all (· = '\n')
  | .rowEnd => after.all (· = '\n')
  | .lineStart => before.all fun c => c = '\n' || (c = '\r' && after ≠ some '\n')
  | .lineEnd => after.all fun c => c = '\r' || (c = '\n' && before ≠ some '\r')
  | .word w => w.holds (before.any isWordCharacter) (after.any isWordCharacter)
  | .anyWord _ => false

/-! ## Expressions -/

inductive Expression where
  /-- Matches the text without characters. -/
  | empty
  | literal (cs : List Char)
  /-- One character of a set, which is of characters or of bytes. -/
  | set (ofBytes : Bool) (s : Charset)
  | look (l : Look)
  /-- Matches one after the other: as many as possible first or, if it is not eager, as few. -/
  | repeated (least : Nat) (most : Option Nat) (eager : Bool) (e : Expression)
  /-- A group that remembers what it matches, which no answer depends on. The place where it begins
  tells it from other groups. -/
  | captured (start : Place) (e : Expression)
  | sequence (es : List Expression)
  | choice (es : List Expression)

namespace Expression

mutual

def same : Expression → Expression → Bool
  | .empty, .empty => true
  | .literal a, .literal b => a == b
  | .set x a, .set y b => x == y && a == b
  | .look a, .look b => a == b
  | .repeated least most eager a, .repeated least' most' eager' b =>
    least == least' && most == most' && eager == eager' && a.same b
  | .captured p a, .captured q b => p == q && a.same b
  | .sequence as, .sequence bs => areSame as bs
  | .choice as, .choice bs => areSame as bs
  | _, _ => false

def areSame : List Expression → List Expression → Bool
  | [], [] => true
  | a :: as, b :: bs => a.same b && areSame as bs
  | _, _ => false

end

/-! ## Lengths of matches -/

mutual

/-- Whether an expression only looks: it matches no character. -/
def onlyLooks : Expression → Bool
  | .empty | .look _ => true
  | .literal _ | .set _ _ => false
  | .repeated _ _ _ e | .captured _ e => e.onlyLooks
  | .sequence es | .choice es => allOnlyLook es

/-- Whether some expressions match no character. -/
def allOnlyLook : List Expression → Bool
  | [] => true
  | e :: es => e.onlyLooks && allOnlyLook es

end

/-- The lesser of two lengths, of which one may not be known. -/
def lesser : Option Nat → Option Nat → Option Nat
  | some a, some b => some (min a b)
  | _, _ => none

mutual

/-- The number of characters of the shortest match. It is not known where a part is a set without
characters, which never matches. -/
def shortest? : Expression → Option Nat
  | .empty | .look _ => some 0
  | .literal cs => some cs.length
  | .set _ s => if s = [] then none else some 1
  | .repeated least _ _ e => e.shortest?.map (least * ·)
  | .captured _ e => e.shortest?
  | .sequence es => shortestOfAll? es
  | .choice es => shortestOfAny? es

def shortestOfAll? : List Expression → Option Nat
  | [] => some 0
  | e :: es => do return (← e.shortest?) + (← shortestOfAll? es)

def shortestOfAny? : List Expression → Option Nat
  | [] => none
  | [e] => e.shortest?
  | e :: es => lesser e.shortest? (shortestOfAny? es)

end

mutual

/-- Whether an expression has a condition that cannot be decided. -/
def isUndecided : Expression → Bool
  | .look (.anyWord _) => true
  | .empty | .literal _ | .set _ _ | .look _ => false
  | .repeated _ _ _ e | .captured _ e => e.isUndecided
  | .sequence es | .choice es => isAnyUndecided es

def isAnyUndecided : List Expression → Bool
  | [] => false
  | e :: es => e.isUndecided || isAnyUndecided es

end

/-! ## Building -/

def ofSet (ofBytes : Bool) (s : Charset) : Expression :=
  match s with
  | [] => .set true []
  | [(low, high)] => if low = high then .literal [Char.ofNat low] else .set ofBytes s
  | _ => .set ofBytes s

/-- A repetition without bounds that make no difference: what only looks is repeated once at
most. -/
def repetition (e : Expression) (least : Nat) (most : Option Nat) (eager : Bool) : Expression :=
  let (least, most) :=
    if e.onlyLooks then (min least 1, some (min (most.getD 1) 1)) else (least, most)
  if least = 0 && most = some 0 then .empty
  else if least = 1 && most = some 1 then e
  else .repeated least most eager e

/-- What has been put together of a sequence: items, and the characters of a literal after them, of
both the last first. -/
structure Joined where
  items : List Expression := []
  chars : List Char := []

def Joined.all (j : Joined) : List Expression :=
  if j.chars = [] then j.items else .literal j.chars.reverse :: j.items

def Joined.add (j : Joined) : Expression → Joined
  | .empty => j
  | .literal cs => { j with chars := cs.reverse ++ j.chars }
  | e => { items := e :: j.all }

/-- The items of a sequence; another expression is the only item. -/
def items : Expression → List Expression
  | .sequence es => es
  | e => [e]

def sequenceOf (es : List Expression) : Expression :=
  match ((es.flatMap items).foldl Joined.add {}).all.reverse with
  | [] => .empty
  | [e] => e
  | es => .sequence es

/-- The branches of a choice; another expression is the only branch. -/
def branches : Expression → List Expression
  | .choice es => es
  | e => [e]

def char? : Expression → Option Char
  | .literal [c] => some c
  | _ => none

def literal? : Expression → Option (List Char)
  | .literal cs => some cs
  | _ => none

def set? : Expression → Option Charset
  | .set _ s => some s
  | _ => none

/-- A choice between branches, which is a set if all are characters or all are sets. -/
def plainChoice (es : List Expression) : Expression :=
  match es with
  | [] => .set true []
  | [e] => e
  | _ =>
    match es.mapM char?, es.mapM set? with
    | some cs, _ => ofSet false (.ofRanges (cs.flatMap Charset.one))
    | _, some sets => ofSet false (.ofRanges sets.flatten)
    | none, none => .choice es

/-- The number of items that two sequences have in common at the start. -/
def common : List Expression → List Expression → Nat
  | a :: as, b :: bs => if a.same b then common as bs + 1 else 0
  | _, _ => 0

/-- The number of items that all branches begin with, if all are sequences. -/
def shared (es : List Expression) : Nat :=
  match es with
  | .sequence first :: rest => rest.foldl (fun n e =>
      match e with
      | .sequence later => common (first.take n) later
      | _ => 0) first.length
  | _ => 0

/-- One of some expressions. What all branches begin with is matched first. The rests of the
branches then have nothing in common: what was a choice before cannot be shortened further. -/
def choiceOf (es : List Expression) : Expression :=
  let flat := es.flatMap branches
  match flat.head?, shared flat with
  | some first, n + 1 =>
    let rests := flat.map fun e => sequenceOf (e.items.drop (n + 1))
    if flat.length = 1 then first
    else sequenceOf (first.items.take (n + 1) ++ [plainChoice (rests.flatMap branches)])
  | _, _ => plainChoice flat

example : sequenceOf [.literal ['a'], .empty, .literal ['b']] = .literal ['a', 'b'] := rfl

end Expression

end Almanac.Regular
