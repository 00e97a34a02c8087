import Almanac.Calendar.Arithmetic
/-!
Date math: an anchor and operations that move or round it, in order.
-/

namespace Almanac

/-- The direction of rounding: to the first millisecond of a unit, or to its last. -/
inductive Rounding where
  | down
  | up
deriving DecidableEq, Inhabited

namespace DateMath

/-- An operation of date math. -/
inductive Operation where
  /-- Adds an amount of units; a negative amount goes back. -/
  | offset (unit : CalendarUnit) (amount : Int64)
  /-- Rounds to a unit, in UTC. -/
  | round (unit : CalendarUnit)
deriving DecidableEq

/-- What the operations start from. -/
inductive Anchor where
  /-- The current instant of a request. -/
  | now
  /-- A fixed instant. -/
  | literal (instant : Instant)
deriving DecidableEq, Inhabited

/-- The instant of an anchor in a request. -/
def Anchor.instant (now : Instant) : Anchor → Instant
  | .now => now
  | .literal i => i

/-- An anchor with the operations on it. -/
structure Expression where
  anchor : Anchor
  operations : List Operation
deriving DecidableEq, Inhabited

/-- Whether the value of an expression depends on the request. -/
def Expression.isNowRelative (e : Expression) : Bool := e.anchor = .now

/-! ## Written form -/

def signed (amount : Int64) : List Char :=
  (if amount.toInt < 0 then '-' else '+') :: Text.decimal amount.toInt.natAbs

def Operation.text : Operation → List Char
  | .offset unit amount => signed amount ++ unit.word.toList
  | .round unit => '/' :: unit.word.toList

/-- Operations as they are written, one after the other. -/
def operationsText (ops : List Operation) : List Char := ops.flatMap Operation.text

/-! ## Evaluation -/

def Operation.apply (rounding : Rounding) (i : Instant) : Operation → Except Fault Instant
  | .offset unit amount => Calendar.add i unit amount
  | .round unit =>
    match rounding with
    | .down => Calendar.roundDown i unit
    | .up => Calendar.roundUp i unit

/-- Applies operations in order, up to the first that fails. -/
def evaluate (rounding : Rounding) (i : Instant) : List Operation → Except Fault Instant
  | [] => .ok i
  | op :: ops => do evaluate rounding (← op.apply rounding i) ops

end DateMath

end Almanac
