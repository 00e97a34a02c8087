import Almanac.CalendarUnit
import Almanac.Instant
/-!
Readings: what a timestamp text says.

A reading is an instant together with the finest unit that the text spells out and the offset of
the clock that it was written on. Calendar units begin and end on that clock.
-/

namespace Almanac

/-- The instant that a text names, how finely it names it, and on which clock. -/
structure Reading where
  instant : Instant
  /-- The finest unit that the text spells out. -/
  precision : CalendarUnit
  /-- Milliseconds by which the clock of the text is ahead of UTC. -/
  offset : Int64
deriving DecidableEq

namespace Reading

def utc (instant : Instant) (precision : CalendarUnit) : Reading := ⟨instant, precision, 0⟩

/-- What the clock of the text shows, taken as if it were UTC. -/
def wallClock? (r : Reading) : Option Instant := r.instant.shift? r.offset.toInt

end Reading

end Almanac
