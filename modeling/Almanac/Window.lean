import Almanac.Query
import Almanac.Tolerance
/-!
Windows: the instants within a tolerance of a centre, for similarity queries.

The ends stop at the first and the last instant.
-/

namespace Almanac

/-- The instants from `lower` to `upper` around a centre. -/
structure Window where
  center : Instant
  /-- Milliseconds on either side. -/
  tolerance : Int64
  lower : Instant
  upper : Instant
deriving DecidableEq

namespace Window

/-- The window of a tolerance around an instant. -/
def around (center : Instant) (tolerance : Int64) : Window :=
  ⟨center, tolerance, center.earlier tolerance, center.later tolerance⟩

/-- The window of a tolerance in text. -/
def read (center : Instant) (tolerance : String) : Except Fault Window := do
  return around center (← Tolerance.read tolerance)

def query (w : Window) (precisionStep : UInt32) : Query :=
  ⟨some w.lower.millis, some w.upper.millis, true, true, precisionStep⟩

/-- The written form: both ends, then the centre and the tolerance. -/
def render (w : Window) : String :=
  "[" ++ w.lower.render ++ ", " ++ w.upper.render ++ "] (" ++ w.center.render ++ " ± "
    ++ toString w.tolerance.toInt ++ "ms)"

end Window

end Almanac
