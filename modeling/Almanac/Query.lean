import Almanac.Instant
/-!
Range queries: bounds, resolved ranges and the query that a numeric index receives.

An absent bound leaves its side open. A range contains an instant exactly when its query matches
the instant's milliseconds.
-/

namespace Almanac

/-- One side of a range. -/
structure Bound where
  /-- Where the side ends; an open side ends nowhere. -/
  value : Option Instant
  inclusive : Bool
deriving DecidableEq

namespace Bound

def unbounded (inclusive : Bool) : Bound := ⟨none, inclusive⟩

/-- A side that ends at an instant. -/
def closedAt (i : Instant) (inclusive : Bool) : Bound := ⟨some i, inclusive⟩

/-- Whether the side has no end. -/
def isOpen (b : Bound) : Bool := b.value.isNone

end Bound

/-- The precision step of an index when none is given. -/
def defaultPrecisionStep : UInt32 := 16

/-- Whether an integer lies above a lower end. -/
def isAbove (low : Option Int) (inclusive : Bool) (n : Int) : Bool :=
  match low with
  | none => true
  | some l => if inclusive then l ≤ n else l < n

/-- Whether an integer lies below an upper end. -/
def isBelow (high : Option Int) (inclusive : Bool) (n : Int) : Bool :=
  match high with
  | none => true
  | some h => if inclusive then n ≤ h else n < h

section Sides

variable {low high : Option Int} {inclusive : Bool} {e n : Int}

@[simp] theorem isAbove_open : isAbove none inclusive n = true := rfl

@[simp] theorem isAbove_inclusive : isAbove (some e) true n = true ↔ e ≤ n := by
  simp [isAbove]

@[simp] theorem isAbove_exclusive : isAbove (some e) false n = true ↔ e < n := by
  simp [isAbove]

@[simp] theorem isBelow_open : isBelow none inclusive n = true := rfl

@[simp] theorem isBelow_inclusive : isBelow (some e) true n = true ↔ n ≤ e := by
  simp [isBelow]

@[simp] theorem isBelow_exclusive : isBelow (some e) false n = true ↔ n < e := by
  simp [isBelow]

/-- Whatever is past the end is above it, and the end itself is if it is included. -/
theorem isAbove_iff :
    isAbove low inclusive n = true ↔ ∀ e, low = some e → e < n ∨ inclusive = true ∧ n = e := by
  cases low with
  | none => simp
  | some e =>
      cases inclusive with
      | false => simp
      | true =>
          simp only [isAbove_inclusive, Option.some.injEq, forall_eq', true_and]
          omega

theorem isBelow_iff :
    isBelow high inclusive n = true ↔ ∀ e, high = some e → n < e ∨ inclusive = true ∧ n = e := by
  cases high with
  | none => simp
  | some e =>
      cases inclusive with
      | false => simp
      | true =>
          simp only [isBelow_inclusive, Option.some.injEq, forall_eq', true_and]
          omega

end Sides

/-- The query of a numeric index: the values between two ends. -/
structure Query where
  min : Option Int64
  max : Option Int64
  includeMin : Bool
  includeMax : Bool
  precisionStep : UInt32
deriving DecidableEq

namespace Query

def exact (value : Int64) (precisionStep : UInt32) : Query :=
  ⟨some value, some value, true, true, precisionStep⟩

def isMatch (q : Query) (value : Int64) : Bool :=
  isAbove (q.min.map Int64.toInt) q.includeMin value.toInt
    && isBelow (q.max.map Int64.toInt) q.includeMax value.toInt

end Query

/-- A range between two resolved sides. -/
structure Interval where
  lower : Bound
  upper : Bound
  /-- Whether a result for the range may be kept; not when a side moves with the present. -/
  cacheable : Bool
deriving DecidableEq

namespace Interval

def contains (r : Interval) (i : Instant) : Bool :=
  isAbove (r.lower.value.map Instant.toInt) r.lower.inclusive i.toInt
    && isBelow (r.upper.value.map Instant.toInt) r.upper.inclusive i.toInt

/-- The instants of a range are those between its ends, and such of its ends as it includes. -/
theorem contains_iff {r : Interval} {i : Instant} :
    r.contains i = true ↔
      (∀ low, r.lower.value = some low → low < i ∨ r.lower.inclusive = true ∧ i = low) ∧
      ∀ high, r.upper.value = some high → i < high ∨ r.upper.inclusive = true ∧ i = high := by
  rw [contains, Bool.and_eq_true, isAbove_iff, isBelow_iff]
  simp only [Option.map_eq_some_iff, forall_exists_index, and_imp, forall_apply_eq_imp_iff₂,
    Instant.toInt_inj]
  exact Iff.rfl

def query (r : Interval) (precisionStep : UInt32) : Query :=
  ⟨r.lower.value.map Instant.millis, r.upper.value.map Instant.millis, r.lower.inclusive,
    r.upper.inclusive, precisionStep⟩

/-- The end of a side as it is written. -/
def endText (i : Option Instant) : String := (i.map Instant.render).getD "*"

/-- The written form: both ends in the brackets of their kind. -/
def render (r : Interval) : String :=
  (if r.lower.inclusive then "[" else "(") ++ endText r.lower.value ++ ", "
    ++ endText r.upper.value ++ (if r.upper.inclusive then "]" else ")")
    ++ (if r.cacheable then "" else " (no cache)")

end Interval

end Almanac
