import Almanac.Regular.Meaning
import Almanac.Regular.Openings
import Almanac.Regular.Program
import Almanac.Regular.Reader
import Almanac.Regular.Size
/-!
Regular expressions: from the text of one to the condition on texts that it is, or to what is said
of it when it is none.
-/

namespace Almanac.Regular

/-- Why a text is no regular expression that can be used. -/
inductive Problem where
  | fault (f : Fault)
  | tooLarge
  /-- It needs a condition on words that is not known. -/
  | undecided
deriving DecidableEq

def Problem.message (text : List Char) : Problem → String
  | .fault f => f.render text
  | .tooLarge => "Compiled regex exceeds size limit of " ++ toString Tally.largest ++ " bytes."
  | .undecided => "error building NFA"

/-- Whether an expression takes too large a program. A choice from literals takes none. -/
def isTooLarge (e : Expression) : Bool :=
  (Size.exceeds .backward e || Size.exceeds .forward e) && !e.isLiteralChoice

/-- The expression of a text. Of the two programs for it, the forward one is built first, and all
its conditions must be known for that. -/
def compile (text : List Char) : Except Problem Expression :=
  match Tree.read text with
  | .error f => .error (.fault f)
  | .ok tree =>
    match tree.meaning {} with
    | .error f => .error (.fault f)
    | .ok (e, _) =>
      if e.isUndecided then
        .error (if Size.exceeds .forward e then .tooLarge else .undecided)
      else if isTooLarge e then .error .tooLarge
      else .ok e

end Almanac.Regular
