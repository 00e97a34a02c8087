import Almanac.Text.Bytes
import Almanac.Word
/-!
Field inputs: the raw values that a field resolves.
-/

namespace Almanac

/-- A raw value: a count of milliseconds, a text in bytes, or a text. -/
inductive Input where
  | number (millis : Int64)
  | bytes (bs : List UInt8)
  | text (t : String)
deriving DecidableEq, Inhabited

namespace Input

/-- The text of an input that is not a number. Bytes that are no text are replaced. -/
def text? : Input → Option String
  | .number _ => none
  | .bytes bs => some (String.ofList (Text.ofBytes bs))
  | .text t => some t

def render : Input → String
  | .number millis => toString millis.toInt
  | .bytes bs => String.ofList (Text.ofBytes bs)
  | .text t => t

end Input

end Almanac
