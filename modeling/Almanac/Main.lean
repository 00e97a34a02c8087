import Almanac.Cli.Program
import Std.Time.DateTime.Timestamp
/-!
The command line: reads the mapping file, the environment and the clock, and prints what the program
answers.
-/

namespace Almanac.Cli

/-- The system's number of a fault; some come with the opposite sign. -/
def faultNumber? (e : IO.Error) : Option Nat :=
  match e with
  | .noFileOrDirectory _ n _ | .permissionDenied _ n _ | .inappropriateType _ n _
  | .invalidArgument _ n _ | .resourceExhausted _ n _ => some (min n.toNat (0 - n).toNat)
  | _ => none

/-- The text of a file, or why it cannot be read. -/
def readText (path : String) : IO (Except Unreadable String) := do
  match ← (IO.FS.readFile path).toBaseIO with
  | .ok text => return .ok text
  | .error e =>
    match faultNumber? e with
    | some n => return .error ((Unreadable.ofNumber? n).getD .missing)
    | none => return .error .notText

/-- The surroundings of this process for a command line. -/
def surroundings (args : List String) : IO Surroundings := do
  let path? := match Arguments.parse args with
    | .ok a => a.mapping
    | .error _ => none
  let content ← match path? with
    | some path => readText path
    | none => pure (.error .missing)
  let time ← Std.Time.Timestamp.now
  return {
    fileText := fun _ => content
    logFilter := ← IO.getEnv "RUST_LOG"
    clock := .nearest time.toMillisecondsSinceUnixEpoch.val }

end Almanac.Cli

open Almanac.Cli in
/-- Runs the program on the arguments of this process. -/
def main (args : List String) : IO UInt32 := do
  let outcome := run args (← surroundings args)
  IO.print outcome.stdout
  IO.eprint outcome.stderr
  return UInt32.ofNat outcome.code
