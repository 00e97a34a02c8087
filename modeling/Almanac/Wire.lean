import Almanac.DateField
import Almanac.Fault.Diagnostic
import Almanac.Json.Value
/-!
The data form of the values that are stored or sent.

A structure is written as a record of its members. It is read from such a record, in any order and
with other entries ignored, or from a list of exactly its members in their order. A member that may
be missing is written as null, and null and nothing are read alike.
-/

namespace Almanac

namespace Wire

/-! ## Members and numbers -/

/-- The values of the named members of a record, or of a list of as many items. -/
def members? (names : List String) : Json → Option (List Json)
  | .obj entries => some (names.map fun name => (Json.find? entries name).getD .null)
  | .arr items => if items.length = names.length then some items else none
  | _ => none

/-- A member that may be missing. -/
def optional? {α : Type} (read : Json → Option α) : Json → Option (Option α)
  | .null => some none
  | j => (read j).map some

def bool? : Json → Option Bool
  | .bool b => some b
  | _ => none

def text? : Json → Option String
  | .str s => some s
  | _ => none

def word? : Json → Option Int64
  | .int n => Word.fit? n
  | _ => none

/-- Reads an integer from zero up to but not including a limit. -/
def natBelow? (limit : Nat) : Json → Option Nat
  | .int n => if 0 ≤ n ∧ n < limit then some n.toNat else none
  | _ => none

/-- Reads an offset or a count. -/
def size? : Json → Option Nat := natBelow? UInt64.size

/-- Reads an integer of 32 bits. -/
def step? (j : Json) : Option UInt32 := (natBelow? UInt32.size j).map UInt32.ofNat

def ofWord (n : Int64) : Json := .int n.toInt

/-- Writes an offset or a count. -/
def ofNat (n : Nat) : Json := .int n

/-- Reads a name: a text, or a record of that name alone with nothing in it. -/
def name? : Json → Option String
  | .str s => some s
  | .obj [(s, .null)] => some s
  | _ => none

def items? {α : Type} (read : Json → Option α) : Json → Option (List α)
  | .arr items => items.mapM read
  | _ => none

end Wire

open Wire

/-! ## Instants and units -/

namespace Instant

/-- An instant is written as its milliseconds. -/
def toJson (i : Instant) : Json := ofWord i.millis

def ofJson? (j : Json) : Option Instant := (word? j).map Instant.mk

end Instant

namespace Scale

/-- A scale is written as its name. -/
def toJson (s : Scale) : Json := .str s.name

/-- Reads the name of a scale, in any case. -/
def ofJson? (j : Json) : Option Scale := do ofName? (← text? j)

end Scale

namespace CalendarUnit

/-- A unit is written as its name. -/
def toJson (u : CalendarUnit) : Json := .str u.name

def ofJson? (j : Json) : Option CalendarUnit := do ofName? (← name? j)

/-- Reads the name of a unit as a member of an operation, where the record of the name may also hold
an empty record. -/
def ofMember? : Json → Option CalendarUnit
  | .obj [(s, .obj [])] => ofName? s
  | j => ofJson? j

end CalendarUnit

namespace Rounding

/-- A rounding is written as its direction. -/
def toJson : Rounding → Json
  | .down => .str "down"
  | .up => .str "up"

def ofJson? (j : Json) : Option Rounding :=
  match name? j with
  | some "down" => some .down
  | some "up" => some .up
  | _ => none

end Rounding

/-! ## Date math -/

namespace DateMath

namespace Operation

/-- An operation is a record that names its kind, and an offset has its amount in it. -/
def toJson : Operation → Json
  | .offset unit amount =>
    .obj [("op", .str "offset"), ("unit", unit.toJson), ("amount", ofWord amount)]
  | .round unit => .obj [("op", .str "round"), ("unit", unit.toJson)]

/-- Reads the members of an operation after its kind. -/
def ofMembers? : String → List Json → Option Operation
  | "offset", [unit, amount] => do
    return .offset (← CalendarUnit.ofMember? unit) (← word? amount)
  | "round", [unit] => do return .round (← CalendarUnit.ofMember? unit)
  | _, _ => none

/-- The names of the members of an operation besides its kind. -/
def memberNames (kind : String) : List String :=
  if kind = "offset" then ["unit", "amount"] else ["unit"]

def ofJson? : Json → Option Operation
  | .obj entries => do
    let kind ← text? (← Json.find? entries "op")
    ofMembers? kind (← members? (memberNames kind) (.obj entries))
  | .arr (.str kind :: items) => do
    ofMembers? kind (← members? (memberNames kind) (.arr items))
  | _ => none

end Operation

namespace Anchor

/-- A fixed anchor is a record of its instant. -/
def toJson : Anchor → Json
  | .now => .str "Now"
  | .literal i => .obj [("Literal", i.toJson)]

def ofJson? : Json → Option Anchor
  | .obj [("Literal", j)] => (Instant.ofJson? j).map .literal
  | j => if name? j = some "Now" then some .now else none

end Anchor

namespace Expression

def toJson (e : Expression) : Json :=
  .obj [("anchor", e.anchor.toJson), ("ops", .arr (e.operations.map Operation.toJson))]

def ofJson? (j : Json) : Option Expression :=
  match members? ["anchor", "ops"] j with
  | some [anchor, operations] => do
    return ⟨← Anchor.ofJson? anchor, ← items? Operation.ofJson? operations⟩
  | _ => none

end Expression

end DateMath

/-! ## Queries -/

namespace Bound

/-- A bound is its end, if it has one, and its kind. -/
def toJson (b : Bound) : Json :=
  .obj [("value", .ofOption Instant.toJson b.value), ("inclusive", .bool b.inclusive)]

def ofJson? (j : Json) : Option Bound :=
  match members? ["value", "inclusive"] j with
  | some [value, inclusive] => do
    return ⟨← optional? Instant.ofJson? value, ← bool? inclusive⟩
  | _ => none

end Bound

namespace Interval

/-- A range is its two sides and whether it may be kept. -/
def toJson (r : Interval) : Json :=
  .obj [("lower", r.lower.toJson), ("upper", r.upper.toJson), ("cacheable", .bool r.cacheable)]

def ofJson? (j : Json) : Option Interval :=
  match members? ["lower", "upper", "cacheable"] j with
  | some [lower, upper, cacheable] => do
    return ⟨← Bound.ofJson? lower, ← Bound.ofJson? upper, ← bool? cacheable⟩
  | _ => none

end Interval

namespace Query

/-- A query is its two ends with their kinds and the step of the index. -/
def toJson (q : Query) : Json :=
  .obj [("min", .ofOption ofWord q.min), ("max", .ofOption ofWord q.max),
    ("include_min", .bool q.includeMin), ("include_max", .bool q.includeMax),
    ("precision_step", ofNat q.precisionStep.toNat)]

def ofJson? (j : Json) : Option Query :=
  match members? ["min", "max", "include_min", "include_max", "precision_step"] j with
  | some [min, max, includeMin, includeMax, step] => do
    return ⟨← optional? word? min, ← optional? word? max, ← bool? includeMin,
      ← bool? includeMax, ← step? step⟩
  | _ => none

end Query

namespace Window

/-- A window is written with both ends. -/
def toJson (w : Window) : Json :=
  .obj [("center", w.center.toJson), ("tolerance", ofWord w.tolerance),
    ("lower", w.lower.toJson), ("upper", w.upper.toJson)]

/-- Reads a window; its ends are taken as they are. -/
def ofJson? (j : Json) : Option Window :=
  match members? ["center", "tolerance", "lower", "upper"] j with
  | some [center, tolerance, lower, upper] => do
    return ⟨← Instant.ofJson? center, ← word? tolerance, ← Instant.ofJson? lower,
      ← Instant.ofJson? upper⟩
  | _ => none

end Window

/-! ## Resolution -/

namespace Stage

def key : Stage → String
  | .number => "number"
  | .displayFormat => "display_format"
  | .dateMath => "date_math"
  | .numericFallback => "numeric_fallback"

/-- A stage is written by its name in data. -/
def toJson (s : Stage) : Json := .str s.key

def ofJson? (j : Json) : Option Stage := do
  let name ← name? j
  [Stage.number, .displayFormat, .dateMath, .numericFallback].find? fun s => s.key == name

end Stage

namespace Resolution

/-- A resolution is its instant and its stage. -/
def toJson (r : Resolution) : Json :=
  .obj [("instant", r.instant.toJson), ("stage", r.stage.toJson)]

def ofJson? (j : Json) : Option Resolution :=
  match members? ["instant", "stage"] j with
  | some [instant, stage] => do return ⟨← Instant.ofJson? instant, ← Stage.ofJson? stage⟩
  | _ => none

end Resolution

namespace Input

/-- A number stands for itself, bytes are a list of numbers, and a text is a text. -/
def toJson : Input → Json
  | .number millis => ofWord millis
  | .bytes bs => .arr (bs.map fun b => ofNat b.toNat)
  | .text t => .str t

def ofJson? : Json → Option Input
  | .int n => (Word.fit? n).map .number
  | .arr items => (items.mapM (natBelow? 256)).map fun ns => .bytes (ns.map UInt8.ofNat)
  | .str t => some (.text t)
  | _ => none

end Input

namespace Layout

/-- A display format is written as its text. -/
def toJson (l : Layout) : Json := .str l.spec

/-- Reads a display format, which must compile. -/
def ofJson? (j : Json) : Option Layout := do
  (compile (← text? j)).toOption

end Layout

/-! ## Faults -/

namespace Span

def toJson (s : Span) : Json := .obj [("start", ofNat s.start), ("end", ofNat s.stop)]

def ofJson? (j : Json) : Option Span :=
  match members? ["start", "end"] j with
  | some [start, stop] => do return ⟨← size? start, ← size? stop⟩
  | _ => none

end Span

namespace Location

/-- A location is line, column, offset and length. -/
def toJson (l : Location) : Json :=
  .obj [("line", ofNat l.line), ("column", ofNat l.column), ("offset", ofNat l.offset),
    ("length", ofNat l.length)]

def ofJson? (j : Json) : Option Location :=
  match members? ["line", "column", "offset", "length"] j with
  | some [line, column, offset, length] => do
    return ⟨← size? line, ← size? column, ← size? offset, ← size? length⟩
  | _ => none

end Location

namespace Code

/-- A code is written as its number. -/
def toJson (c : Code) : Json := ofNat c.number.toNat

def ofJson? (j : Json) : Option Code :=
  (natBelow? UInt16.size j).map fun n => ⟨UInt16.ofNat n⟩

end Code

namespace Severity

/-- A severity is written as one word. -/
def toJson : Severity → Json
  | .error => .str "Error"

def ofJson? (j : Json) : Option Severity := if name? j = some "Error" then some .error else none

end Severity

namespace Diagnostic

/-- A diagnostic is written with what may be missing as null. -/
def toJson (d : Diagnostic) : Json :=
  .obj [("severity", d.severity.toJson), ("code", d.code.toJson), ("message", .str d.message),
    ("location", .ofOption Location.toJson d.location), ("help", .ofOption .str d.help)]

def ofJson? (j : Json) : Option Diagnostic :=
  match members? ["severity", "code", "message", "location", "help"] j with
  | some [severity, code, message, location, help] => do
    return ⟨← Severity.ofJson? severity, ← Code.ofJson? code, ← text? message,
      ← optional? Location.ofJson? location, ← optional? text? help⟩
  | _ => none

end Diagnostic

end Almanac
