import Almanac.DateMath.Text
import Almanac.Input
import Almanac.Layout
import Almanac.Log
import Almanac.Scale
import Almanac.Text.Integer
/-!
Resolution of inputs to instants.

A number is an instant already. A text is tried in a fixed order: in the display format of the
field, then as date math, then as a bare integer in the scale of the field. Rounding up widens a
literal to the last millisecond of the finest unit that it names, on the clock it was written on,
and rounds date math up; `NOW` by itself and numbers are never widened.
-/

namespace Almanac

/-- The stage of resolution that produced an instant. -/
inductive Stage where
  | number
  | displayFormat
  | dateMath
  | numericFallback
deriving DecidableEq, Inhabited

def Stage.name : Stage → String
  | .number => "number"
  | .displayFormat => "display format"
  | .dateMath => "date math"
  | .numericFallback => "numeric fallback"

/-- An instant and the stage that it comes from. -/
structure Resolution where
  instant : Instant
  stage : Stage
deriving DecidableEq, Inhabited

/-- A display format and a scale of bare integers. -/
structure Resolver where
  layout : Layout
  scale : Scale
deriving DecidableEq, Inhabited

/-- The instant of a reading, or the last millisecond of its unit when rounding up. -/
def Reading.widen (r : Reading) : Rounding → Except Fault Instant
  | .down => .ok r.instant
  | .up => Calendar.endOfUnitAt r.instant r.precision r.offset

/-- The value of date math. A literal anchor by itself is widened like any literal. -/
def DateMath.Parsed.value (p : DateMath.Parsed) (now : Instant) (rounding : Rounding) :
    Except Fault Instant :=
  match rounding, p.expression.anchor, p.expression.operations with
  | .up, .literal start, [] => Calendar.endOfUnit start p.anchorPrecision
  | _, anchor, operations => DateMath.evaluate rounding (anchor.instant now) operations

namespace Resolver

/-! ## Stages -/

/-- The stage of the display format. -/
def byLayout (r : Resolver) (text : List Char) (rounding : Rounding) : Except Fault Instant := do
  (← r.layout.read text).widen rounding

/-- The stage of date math; no instant when the text is not date math at all. -/
def byDateMath (text : List Char) (now : Instant) (rounding : Rounding) :
    Except Fault (Option Instant) := do
  match ← DateMath.read text with
  | none => return none
  | some p => return some (← p.value now rounding)

/-- The stage of bare integers. -/
def byScale? (r : Resolver) (text : List Char) : Option Instant := do
  return ⟨← r.scale.toMillis? (← Text.word? text)⟩

def unresolved (r : Resolver) (text : String) (cause : Fault) : Fault :=
  .unresolved text r.layout.spec r.scale.name (some cause)

/-- What is left of a text that is not in the display format: date math first, then a bare
integer. A fault of date math is the likelier cause of failure. -/
def afterLayout (r : Resolver) (text : String) (now : Instant) (rounding : Rounding)
    (layoutFault : Fault) : Except Fault Resolution :=
  match byDateMath text.toList now rounding with
  | .ok (some i) => .ok ⟨i, .dateMath⟩
  | .ok none => byNumber layoutFault
  | .error fault => byNumber fault
where
  /-- The last stage, with the cause of failure if it fails too. -/
  byNumber (cause : Fault) : Except Fault Resolution :=
    match r.byScale? text.toList with
    | some i => .ok ⟨i, .numericFallback⟩
    | none => .error (r.unresolved text cause)

def resolveText (r : Resolver) (text : String) (now : Instant) (rounding : Rounding) :
    Except Fault Resolution :=
  match r.byLayout text.toList rounding with
  | .ok i => .ok ⟨i, .displayFormat⟩
  | .error fault => r.afterLayout text now rounding fault

def resolve (r : Resolver) (input : Input) (now : Instant) (rounding : Rounding) :
    Except Fault Resolution :=
  match input with
  | .number millis => .ok ⟨⟨millis⟩, .number⟩
  | .bytes bytes => r.resolveText (String.ofList (Text.ofBytes bytes)) now rounding
  | .text text => r.resolveText text now rounding

/-! ## Journal -/

/-- The part of the program that resolution is logged under. -/
def target : String := "datefield_eval::resolver"

def bracketed (text : String) : String := "[" ++ text ++ "]"

def scaleJournal (r : Resolver) (text : String) : List Log.Entry :=
  match Text.word? text.toList with
  | none => []
  | some value =>
    match r.scale.toMillis? value with
    | some _ =>
      [⟨.debug, target, "resolved " ++ bracketed text ++ " as a number of " ++ r.scale.name⟩]
    | none => [⟨.trace, target, bracketed text ++ " " ++ r.scale.name ++ " overflows milliseconds"⟩]

/-- What is logged of the stages after the display format. -/
def dateMathJournal (r : Resolver) (text : String) (now : Instant) (rounding : Rounding) :
    List Log.Entry :=
  match DateMath.read text.toList with
  | .error fault =>
    ⟨.trace, target, "date math rejected " ++ bracketed text ++ ": " ++ fault.message⟩
      :: r.scaleJournal text
  | .ok none => ⟨.trace, target, bracketed text ++ " is not date math"⟩ :: r.scaleJournal text
  | .ok (some p) =>
    match p.value now rounding with
    | .ok _ => [⟨.debug, target, "resolved " ++ bracketed text ++ " with date math"⟩]
    | .error fault =>
      ⟨.trace, target, "date math for " ++ bracketed text ++ " failed: " ++ fault.message⟩
        :: r.scaleJournal text

/-- What is logged while a text is resolved. -/
def journal (r : Resolver) (text : String) (now : Instant) (rounding : Rounding) :
    List Log.Entry :=
  match r.byLayout text.toList rounding with
  | .ok _ =>
    [⟨.debug, target,
      "resolved " ++ bracketed text ++ " with date format " ++ bracketed r.layout.spec⟩]
  | .error fault =>
    ⟨.trace, target, "date format " ++ bracketed r.layout.spec ++ " rejected " ++ bracketed text
      ++ ": " ++ fault.message⟩ :: r.dateMathJournal text now rounding

end Resolver

end Almanac
