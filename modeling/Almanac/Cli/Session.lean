import Almanac.Cli.Failure
import Almanac.Log
/-!
Sessions: computations of a command that may fail and that keep a journal either way.
-/

namespace Almanac.Cli

/-- A computation with a journal that is kept when it fails. -/
abbrev Session (α : Type) := ExceptT Failure (StateM (List Log.Entry)) α

namespace Session

def note (entries : List Log.Entry) : Session Unit := modify (· ++ entries)

/-- A result that may be a fault, found while something was being done. -/
def within {α : Type} (context : String) (r : Except Fault α) : Session α :=
  match r with
  | .ok a => pure a
  | .error f => throw ((Failure.ofFault f).within context)

/-- A result that may be a fault. -/
def require {α : Type} (r : Except Fault α) : Session α :=
  match r with
  | .ok a => pure a
  | .error f => throw (.ofFault f)

/-- Runs a session from an empty journal. -/
def start {α : Type} (s : Session α) : Except Failure α × List Log.Entry :=
  (ExceptT.run s).run []

end Session

end Almanac.Cli
