import Almanac.CacheSafety
import Almanac.Query
import Almanac.Resolver
/-!
Ranges between two inputs, resolved against the same present.

An inclusive upper text may be widened to the end of the unit that it names. The range is cacheable
when neither text side moves with the present.
-/

namespace Almanac.Resolver

/-- How the sides of a range are resolved. -/
structure RangeRules where
  includeLower : Bool := true
  includeUpper : Bool := true
  /-- Whether an inclusive upper side is rounded up. -/
  widenUpper : Bool := true
deriving DecidableEq

def RangeRules.upperRounding (rules : RangeRules) : Rounding :=
  if rules.includeUpper && rules.widenUpper then .up else .down

/-- Whether an input keeps its value from one request to the next. -/
def isSteady (input : Input) : Bool :=
  !(input.text?.any fun text => CacheSafety.isUnsafe text.toList)

/-- Resolves one side of a range, and says whether it keeps its value. -/
def side (r : Resolver) (input : Option Input) (inclusive : Bool) (now : Instant)
    (rounding : Rounding) : Except Fault (Bound × Bool) :=
  match input with
  | none => .ok (.unbounded inclusive, true)
  | some input => do
    let resolution ← r.resolve input now rounding
    return (.closedAt resolution.instant inclusive, isSteady input)

/-- Resolves a range, the lower side first. -/
def range (r : Resolver) (lower upper : Option Input) (rules : RangeRules) (now : Instant) :
    Except Fault Interval := do
  let low ← r.side lower rules.includeLower now .down
  let high ← r.side upper rules.includeUpper now rules.upperRounding
  return ⟨low.1, high.1, low.2 && high.2⟩

/-! ## Journal -/

def rangeTarget : String := "datefield_eval::range"

/-- What is logged of a side that moves with the present. -/
def unsteadyEntry (name text : String) : Log.Entry :=
  ⟨.debug, rangeTarget,
    name ++ " bound " ++ bracketed text ++ " depends on an unrounded now; range is not cacheable"⟩

/-- What is logged while one side of a range is resolved. -/
def sideJournal (r : Resolver) (name : String) (input : Option Input) (now : Instant)
    (rounding : Rounding) : List Log.Entry :=
  match input.bind Input.text? with
  | none => []
  | some text =>
    r.journal text now rounding ++
      (if (r.resolveText text now rounding).isOk && CacheSafety.isUnsafe text.toList then
        [unsteadyEntry name text]
      else [])

/-- What is logged while a range is resolved; nothing of the upper side when the lower fails. -/
def rangeJournal (r : Resolver) (lower upper : Option Input) (rules : RangeRules)
    (now : Instant) : List Log.Entry :=
  r.sideJournal "lower" lower now .down ++
    (if (r.side lower rules.includeLower now .down).isOk then
      r.sideJournal "upper" upper now rules.upperRounding
    else [])

end Almanac.Resolver
