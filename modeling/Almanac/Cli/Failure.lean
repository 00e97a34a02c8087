import Almanac.Cli.Style
/-!
Failures of commands: what was being done, from the outside in, and why it did not succeed.
-/

namespace Almanac.Cli

inductive Reason where
  /-- A fault of a value, a query or a mapping. -/
  | fault (f : Fault)
  /-- Another reason in words. -/
  | other (message : String)

/-- A failure and what was being done when it arose, the outermost first. -/
structure Failure where
  contexts : List String
  reason : Reason

namespace Failure

def ofFault (f : Fault) : Failure := ⟨[], .fault f⟩

/-- The failure with one more thing that was being done. -/
def within (context : String) (f : Failure) : Failure :=
  { f with contexts := context :: f.contexts }

/-- The reason in words, with the causes of a fault. -/
def reasonText : Reason → String
  | .fault f => f.chain
  | .other message => message

/-- The rendered diagnostic of a reason that points into a text, on rows of its own. -/
def diagnosticRows (s : Style) : Reason → String
  | .other _ => ""
  | .fault f =>
    match f.location?, f.text? with
    | some _, some text =>
      let d := Diagnostic.ofFault f
      "\n" ++ d.renderUnder (s.paint .boldRed d.severity.render) text
    | _, _ => ""

def render (s : Style) (f : Failure) : String :=
  s.paint .boldRed "Error:" ++ " " ++ ": ".intercalate (f.contexts ++ [reasonText f.reason])
    ++ diagnosticRows s f.reason

end Failure

end Almanac.Cli
