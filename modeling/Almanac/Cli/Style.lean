import Almanac.Fault.Diagnostic
/-!
Colours of the command line's output.

Colours are drawn with escape sequences, and only when they are wanted.
-/

namespace Almanac.Cli

/-- A way to draw text. -/
inductive Ink where
  | boldRed
  | green
  | yellow
  | cyan
deriving DecidableEq

/-- The parameters of an ink's escape sequence. -/
def Ink.parameters : Ink → String
  | .boldRed => "1;31"
  | .green => "32"
  | .yellow => "33"
  | .cyan => "36"

/-- Whether colours are drawn. -/
structure Style where
  colored : Bool
deriving DecidableEq

namespace Style

def plain : Style := ⟨false⟩

def paint (s : Style) (ink : Ink) (text : String) : String :=
  if s.colored then "\x1b[" ++ ink.parameters ++ "m" ++ text ++ "\x1b[0m" else text

/-- The places that a label takes. -/
def labelWidth : Nat := 10

/-- A label filled up with blanks, and a blank after it. -/
def label (s : Style) (name : String) : String :=
  let blanks := String.ofList (List.replicate (labelWidth - name.length) ' ')
  s.paint .cyan (name ++ blanks) ++ " "

/-- The answer to whether a bound may be cached. -/
def cacheVerdict (s : Style) (cacheable : Bool) : String :=
  if cacheable then s.paint .green "cacheable" else s.paint .yellow "not cacheable"

end Style

end Almanac.Cli
