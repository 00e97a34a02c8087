/-!
Log entries: what the program says about its own steps, each with a level and a target.
-/

namespace Almanac.Log

/-- How much detail an entry belongs to, from the least to the most. -/
inductive Level where
  | error
  | warn
  | info
  | debug
  | trace
deriving DecidableEq

def Level.rank : Level → Nat
  | .error => 1
  | .warn => 2
  | .info => 3
  | .debug => 4
  | .trace => 5

/-- The name of a level, in five places. -/
def Level.label : Level → String
  | .error => "ERROR"
  | .warn => "WARN "
  | .info => "INFO "
  | .debug => "DEBUG"
  | .trace => "TRACE"

/-- A message, with its level and the part of the program that it comes from. -/
structure Entry where
  level : Level
  target : String
  message : String
deriving DecidableEq

def Entry.render (e : Entry) : String :=
  "[" ++ e.level.label ++ " " ++ e.target ++ "] " ++ e.message

end Almanac.Log
