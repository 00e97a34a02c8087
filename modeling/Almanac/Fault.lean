import Almanac.Fault.Code
import Almanac.Span
/-!
Faults: everything that can go wrong with a date value, a query or a field mapping.

A fault of reading owns the whole text that could not be read and the span in it that is to blame.
-/

namespace Almanac

/-- The reason why a text, an instant or a mapping is refused. -/
inductive Fault where
  /-- A timestamp, in canonical form or in a display format, could not be read. -/
  | malformedTimestamp (text : String) (span : Span) (message : String)
  /-- A token or unit of a date math suffix is not known. -/
  | malformedMath (text : String) (span : Span) (message : String)
  /-- No stage of resolution accepts the text; the cause is why the likeliest one does not. -/
  | unresolved (text format scale : String) (cause : Option Fault)
  /-- A tolerance is neither a duration nor a number. -/
  | badTolerance (text message : String)
  /-- A calculation from this instant leaves the calendar or the word range. -/
  | instantOutOfRange (millis : Int64)
  /-- A display pattern does not compile. -/
  | badPattern (pattern : String) (span : Span) (message : String)
  /-- A field mapping is not valid. -/
  | badMapping (message : String)
deriving Inhabited

namespace Fault

/-- Moves a fault that was found in a part of a text to the whole text, in which the part starts
at `offset`. -/
def within (whole : String) (offset : Nat) : Fault → Fault
  | .malformedTimestamp _ span message => .malformedTimestamp whole (span.shifted offset) message
  | .malformedMath _ span message => .malformedMath whole (span.shifted offset) message
  | other => other

def code : Fault → Code
  | .malformedTimestamp .. => .malformedTimestamp
  | .malformedMath .. => .malformedMath
  | .unresolved .. => .unresolved
  | .badTolerance .. => .badTolerance
  | .instantOutOfRange .. => .instantOutOfRange
  | .badPattern .. => .badPattern
  | .badMapping .. => .badMapping

/-- The text that the fault is about. -/
def text? : Fault → Option String
  | .malformedTimestamp text .. => some text
  | .malformedMath text .. => some text
  | .unresolved text .. => some text
  | .badTolerance text _ => some text
  | .badPattern pattern .. => some pattern
  | .instantOutOfRange _ | .badMapping _ => none

/-- The place in the text that is to blame; an unresolved value is located where its cause is. -/
def location? : Fault → Option Location
  | .malformedTimestamp text span _ => some (.ofSpan span text)
  | .malformedMath text span _ => some (.ofSpan span text)
  | .badPattern pattern span _ => some (.ofSpan span pattern)
  | .unresolved _ _ _ (some cause) => cause.location?
  | _ => none

def message : Fault → String
  | .malformedTimestamp text span message =>
    "malformed timestamp '" ++ text ++ "' at offset " ++ toString span.start ++ ": " ++ message
  | .malformedMath text span message =>
    "malformed date math token in '" ++ text ++ "' at offset " ++ toString span.start ++ ": "
      ++ message
  | .unresolved text format scale _ =>
    "failed to parse date field [" ++ text ++ "], tried date format [" ++ format
      ++ "], date math, and timestamp number in " ++ scale
  | .badTolerance text message => "invalid tolerance value [" ++ text ++ "]: " ++ message
  | .instantOutOfRange millis =>
    "instant " ++ toString millis.toInt ++ " is outside the supported calendar range"
  | .badPattern pattern span message =>
    "invalid date format pattern '" ++ pattern ++ "' at offset " ++ toString span.start ++ ": "
      ++ message
  | .badMapping message => "invalid date field configuration: " ++ message

def cause? : Fault → Option Fault
  | .unresolved _ _ _ cause => cause
  | _ => none

/-- The fault in words, followed by its causes. -/
def chain : Fault → String
  | .unresolved text format scale (some cause) =>
    message (.unresolved text format scale none) ++ ": " ++ cause.chain
  | other => other.message

end Fault

end Almanac
