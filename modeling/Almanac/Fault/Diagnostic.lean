import Almanac.Fault
/-!
Diagnostics: faults as they are shown to a person, with a row of carets under the offending part.
-/

namespace Almanac

/-- How bad a diagnostic is; every one so far refuses the value. -/
inductive Severity where
  | error
deriving DecidableEq

def Severity.render : Severity → String
  | .error => "error"

/-- A message with its code, its place in the text and help. -/
structure Diagnostic where
  severity : Severity
  code : Code
  message : String
  location : Option Location
  help : Option String
deriving DecidableEq

namespace Diagnostic

def ofFault (f : Fault) : Diagnostic :=
  ⟨.error, f.code, f.message, f.location?, f.code.info.help⟩

/-- The row below the source row: blanks up to the column, then carets, at least one. -/
def caretRow (l : Location) : String :=
  "   | " ++ String.ofList (List.replicate (l.column - 1) ' ')
    ++ String.ofList (List.replicate (max l.length 1) '^')

/-- The rows that show a place in the source text. -/
def sourceRows (source : String) (l : Location) : String :=
  "\n  --> " ++ l.render ++ "\n   |\n   | " ++ source ++ "\n" ++ caretRow l

/-- The diagnostic over several rows, under the given heading. -/
def renderUnder (heading : String) (d : Diagnostic) (source : String) : String :=
  heading ++ "[" ++ d.code.render ++ "]: " ++ d.message
    ++ (d.location.map (sourceRows source)).getD ""
    ++ (d.help.map fun help => "\n   = help: " ++ help).getD ""

/-- The diagnostic over several rows, headed by its severity. -/
def render (d : Diagnostic) (source : String) : String :=
  d.renderUnder d.severity.render source

/-- The diagnostic in one row. -/
def summary (d : Diagnostic) : String :=
  d.severity.render ++ ": " ++ d.code.render ++ " - " ++ d.message
    ++ (d.location.map fun l => " at " ++ l.render).getD ""

end Diagnostic

end Almanac
