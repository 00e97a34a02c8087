import Almanac.Cli.Arguments
import Almanac.Cli.Report
import Almanac.Log.Filter
import Almanac.Text.ControlSequence
/-!
The program: from arguments to exit code and output.

Everything the program needs from outside, the text of the mapping file, the log filter and the
clock, is given to it, so that a run is a function.
-/

namespace Almanac.Cli

/-- What a run leaves behind. -/
structure Outcome where
  code : Nat
  stdout : String
  stderr : String

/-- What a run needs from outside. -/
structure Surroundings where
  /-- The text of a file, or why it cannot be read. -/
  fileText : String → Except Unreadable String
  /-- The log filter, if one is set. -/
  logFilter : Option String
  clock : Instant

namespace Arguments

/-- The style of the output; without a terminal, colours must be asked for. -/
def style (a : Arguments) : Style := ⟨Text.sameLetters a.color.toList "always".toList⟩

def setup (a : Arguments) (w : Surroundings) : Setup :=
  { mapping := a.mapping.map fun path => ⟨path, w.fileText path⟩
    format := a.format
    scale := a.scale
    now := a.now }

/-- The value of a switch of the command. -/
def bound? (a : Arguments) (name : String) : Option String :=
  (a.bounds.find? fun s => s.1 == name).map Prod.snd

/-- The operands, of which there must be one. -/
def someOperands (a : Arguments) (what : String) : Session (List String) :=
  if a.operands = [] then throw ⟨[], .other what⟩ else pure a.operands

def resolveReports (a : Arguments) (w : Surroundings) : Session (List Report) := do
  let values ← a.someOperands "No values specified to resolve"
  let request ← (a.setup w).request w.clock
  values.mapM (resolveReport request)

def formatReports (a : Arguments) (w : Surroundings) : Session (List Report) := do
  let values ← a.someOperands "No values specified to format"
  let field ← (a.setup w).field
  (values.filterMap fun v => Text.word? v.toList).mapM fun millis => formatReport field ⟨millis⟩

def rangeReports (a : Arguments) (w : Surroundings) : Session (List Report) := do
  let request ← (a.setup w).request w.clock
  let report ← rangeReport request (BoundArgument.of? (a.bound? "gt") (a.bound? "gte"))
    (BoundArgument.of? (a.bound? "lt") (a.bound? "lte"))
  return [report]

def classifyReports (a : Arguments) : Session (List Report) := do
  return (← a.someOperands "No expressions specified to classify").map classifyReport

def windowReports (a : Arguments) (w : Surroundings) : Session (List Report) := do
  let request ← (a.setup w).request w.clock
  match a.operands with
  | [value, tolerance] => return [← windowReport request value tolerance]
  | _ => return []

def reports (a : Arguments) (w : Surroundings) : Session (List Report) :=
  match a.command with
  | .resolve => a.resolveReports w
  | .format => a.formatReports w
  | .range => a.rangeReports w
  | .classify => a.classifyReports
  | .fuzzy => a.windowReports w

/-- The reports as they are printed: as one list of data, or in text with blank rows between. -/
def printed (a : Arguments) (reports : List Report) : String :=
  if a.json then (Json.arr (reports.map Report.data)).pretty ++ "\n"
  else "\n".intercalate (reports.map fun r => r.text a.style ++ "\n")

end Arguments

/-! ## Log output -/

/-- The indentation of the rows of a log message after the first. -/
def logIndent (c : Char) : List Char := if c = '\n' then "\n    ".toList else [c]

/-- A log entry in its rows, without the control sequences in it. -/
def logRows (e : Log.Entry) : String :=
  String.ofList (Text.shown ({ e with message := "" }.render.toList
    ++ e.message.toList.flatMap logIndent ++ ['\n']))

def filterWarning (message : String) : String := "warning: " ++ message ++ ", ignoring it\n"

/-- The log filter when none is set. -/
def defaultFilter (verbose : Bool) : String := if verbose then "debug" else "warn"

def logText (filter : String) (journal : List Log.Entry) : String :=
  let (f, wrong) := Log.Filter.read filter
  String.join (wrong.map filterWarning) ++ String.join ((journal.filter f.shows).map logRows)

/-! ## Running -/

/-- Runs a command that has been understood. -/
def runArguments (a : Arguments) (w : Surroundings) : Outcome :=
  let (result, journal) := Session.start (a.reports w)
  let log := logText (w.logFilter.getD (defaultFilter a.verbose)) journal
  match result with
  | .ok reports => ⟨0, a.printed reports, log⟩
  | .error failure => ⟨1, "", log ++ failure.render a.style ++ "\n"⟩

/-- What is said of arguments that are not understood. -/
def usage : String :=
  "usage: datefield [OPTIONS] resolve|format|range|classify|fuzzy ...\n"

/-- Runs the program; arguments that are not understood end it with code 2. -/
def run (args : List String) (w : Surroundings) : Outcome :=
  match Arguments.parse args with
  | .ok a => runArguments a w
  | .error .misuse => ⟨2, "", usage⟩
  | .error .help => ⟨0, usage, ""⟩

end Almanac.Cli
