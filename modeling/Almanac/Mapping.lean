import Almanac.DateField
import Almanac.Json.Parser
import Almanac.Text.Quoted
/-!
Field mappings: the settings of a date field as its user writes them.

Every setting may be left out. `Mapping.ofJson` reads a mapping from a record of named settings or
from a list of settings in their fixed order, `Mapping.build` checks the settings against each other
and compiles the field, and `DateField.toMapping` writes the settings of a field back.
-/

namespace Almanac

/-- The settings of a date field. -/
structure Mapping where
  kind : Option String := none
  format : Option String := none
  scale : Option Scale := none
  nullValue : Option String := none
  precisionStep : Option UInt32 := none
  roundUpperInclusive : Option Bool := none
  /-- An older name for the setting before. -/
  roundCeil : Option Bool := none
  /-- An older name for the same setting. -/
  parseUpperInclusive : Option Bool := none
deriving DecidableEq, Inhabited

/-- The type of date fields in mappings. -/
def dateFieldKind : String := "solr_date"

namespace Mapping

/-! ## Settings -/

inductive Setting where
  | kind
  | format
  | scale
  | nullValue
  | precisionStep
  | roundUpperInclusive
  | roundCeil
  | parseUpperInclusive
deriving DecidableEq

namespace Setting

/-- All settings in their fixed order. -/
def all : List Setting :=
  [.kind, .format, .scale, .nullValue, .precisionStep, .roundUpperInclusive, .roundCeil,
    .parseUpperInclusive]

def name : Setting → String
  | .kind => "type"
  | .format => "format"
  | .scale => "numeric_resolution"
  | .nullValue => "null_value"
  | .precisionStep => "precision_step"
  | .roundUpperInclusive => "round_upper_inclusive"
  | .roundCeil => "round_ceil"
  | .parseUpperInclusive => "parse_upper_inclusive"

def ofName? (name : String) : Option Setting := all.find? fun s => s.name == name

end Setting

/-! ## Reading -/

/-- A value as it is named in messages. -/
def valueText : Json → String
  | .null => "null"
  | .bool b => "boolean `" ++ (if b then "true" else "false") ++ "`"
  | .int n => "integer `" ++ toString n ++ "`"
  | .real x => "floating point `" ++ x.render ++ "`"
  | .str s => "string " ++ Text.quote s
  | .arr _ => "sequence"
  | .obj _ => "map"

/-- The message about a value of another type than is wanted. -/
def wrongType (wanted : String) (j : Json) : String :=
  "invalid type: " ++ valueText j ++ ", expected " ++ wanted

def unknownSetting (name : String) : String :=
  "unknown field `" ++ name ++ "`, expected one of "
    ++ ", ".intercalate (Setting.all.map fun s => "`" ++ s.name ++ "`")

/-- A setting whose null means that it is left out. -/
def optional {α : Type} (read : Json → Except String α) : Json → Except String (Option α)
  | .null => .ok none
  | j => some <$> read j

def readText : Json → Except String String
  | .str s => .ok s
  | j => .error (wrongType "a string" j)

def readBool : Json → Except String Bool
  | .bool b => .ok b
  | j => .error (wrongType "a boolean" j)

def readScale (j : Json) : Except String Scale := do
  let name ← readText j
  match Scale.ofName? name with
  | some s => .ok s
  | none => .error (Scale.unknown name)

/-- Reads an integer from 0 to 4294967295. -/
def readStep : Json → Except String UInt32
  | .int n =>
    if 0 ≤ n ∧ n < 4294967296 then .ok (UInt32.ofNat n.toNat)
    else .error ("invalid value: " ++ valueText (.int n) ++ ", expected u32")
  | j => .error (wrongType "u32" j)

def set (m : Mapping) (s : Setting) (j : Json) : Except String Mapping :=
  match s with
  | .kind => do return { m with kind := ← optional readText j }
  | .format => do return { m with format := ← optional readText j }
  | .scale => do return { m with scale := ← optional readScale j }
  | .nullValue => do return { m with nullValue := ← optional readText j }
  | .precisionStep => do return { m with precisionStep := ← optional readStep j }
  | .roundUpperInclusive => do return { m with roundUpperInclusive := ← optional readBool j }
  | .roundCeil => do return { m with roundCeil := ← optional readBool j }
  | .parseUpperInclusive => do return { m with parseUpperInclusive := ← optional readBool j }

def setNamed (m : Mapping) (entry : String × Json) : Except String Mapping :=
  match Setting.ofName? entry.1 with
  | some s => m.set s entry.2
  | none => .error (unknownSetting entry.1)

/-- Sets the settings in their fixed order, as far as there are items; `count` is the number of all
items. -/
def setOrdered (count : Nat) (m : Mapping) : List Setting → List Json → Except String Mapping
  | _, [] => .ok m
  | [], _ :: _ =>
    .error ("invalid length " ++ toString count ++ ", expected fewer elements in array")
  | s :: settings, j :: items => do
    setOrdered count (← m.set s j) settings items

/-- Reads the settings of a value; the entries of a record are taken in the order of their names,
and the first mistake is reported. -/
def readSettings : Json → Except String Mapping
  | .obj entries => (Json.sortedEntries entries).foldlM setNamed {}
  | .arr items => setOrdered items.length {} Setting.all items
  | j => .error (wrongType "struct DateFieldConfig" j)

def ofJson (j : Json) : Except Fault Mapping := (readSettings j).mapError .badMapping

/-- Whether a name occurs twice among the entries of a record. -/
def repeatsName : Json → Bool
  | .obj entries => (entries.map Prod.fst).eraseDups.length < entries.length
  | _ => false

/-- Reads a mapping from text, in which no setting may be repeated. -/
def parse (text : String) : Except Fault Mapping :=
  match Json.parse? text with
  | none => .error (.badMapping "malformed JSON")
  | some j => if repeatsName j then .error (.badMapping "duplicate field") else ofJson j

/-! ## Writing -/

/-- The settings that are given, under their names. -/
def toJson (m : Mapping) : Json :=
  .record
    [(Setting.kind.name, m.kind.map .str),
      (Setting.format.name, m.format.map .str),
      (Setting.scale.name, m.scale.map fun s => .str s.name),
      (Setting.nullValue.name, m.nullValue.map .str),
      (Setting.precisionStep.name, m.precisionStep.map fun n => .int n.toNat),
      (Setting.roundUpperInclusive.name, m.roundUpperInclusive.map .bool),
      (Setting.roundCeil.name, m.roundCeil.map .bool),
      (Setting.parseUpperInclusive.name, m.parseUpperInclusive.map .bool)]

/-! ## Compiling -/

/-- Refuses any other type than that of date fields. -/
def checkKind (m : Mapping) : Except Fault Unit :=
  match m.kind with
  | none => .ok ()
  | some kind =>
    if kind = dateFieldKind then .ok ()
    else .error (.badMapping ("type must be [" ++ dateFieldKind ++ "], got [" ++ kind ++ "]"))

/-- The precision step, from 1 to 64. -/
def checkedStep (m : Mapping) : Except Fault UInt32 :=
  let step := m.precisionStep.getD defaultPrecisionStep
  if 1 ≤ step ∧ step ≤ 64 then .ok step
  else .error (.badMapping
    ("precision_step must be between 1 and 64, got [" ++ toString step.toNat ++ "]"))

/-- The names under which widening of upper bounds is given, with the values. -/
def wideningGiven (m : Mapping) : List (String × Bool) :=
  [(Setting.roundUpperInclusive, m.roundUpperInclusive), (.roundCeil, m.roundCeil),
    (.parseUpperInclusive, m.parseUpperInclusive)].filterMap fun s =>
      s.2.map fun b => (s.1.name, b)

/-- Whether upper bounds are widened, which may be given under one name only. -/
def checkedWidening (m : Mapping) : Except Fault Bool :=
  match m.wideningGiven with
  | [] => .ok true
  | [(_, b)] => .ok b
  | given => .error (.badMapping
      ("only one of [" ++ ", ".intercalate (given.map Prod.fst) ++ "] may be set"))

/-- Checks the settings and compiles the field; the format comes last. -/
def build (m : Mapping) : Except Fault DateField := do
  m.checkKind
  let step ← m.checkedStep
  let widenUpper ← m.checkedWidening
  let layout ← Layout.compile (m.format.getD Layout.defaultName)
  return ⟨⟨layout, m.scale.getD .milliseconds⟩, m.nullValue, step, widenUpper⟩

end Mapping

namespace DateField

/-- A setting that is written when it is not the default, or when all are. -/
def unlessDefault (isAll isDefault : Bool) (j : Json) : Option Json :=
  if isAll || !isDefault then some j else none

/-- The settings of a field, sorted by name; those at their defaults only when all are wanted. -/
def toMapping (f : DateField) (isAll : Bool) : Json :=
  .record
    [("format", unlessDefault isAll f.layout.isDefault (.str f.layout.spec)),
      ("null_value", match f.nullValue with
        | some text => some (.str text)
        | none => if isAll then some .null else none),
      ("numeric_resolution",
        unlessDefault isAll (f.resolver.scale = .milliseconds) (.str f.resolver.scale.name)),
      ("precision_step",
        unlessDefault isAll (f.precisionStep = defaultPrecisionStep) (.int f.precisionStep.toNat)),
      ("round_upper_inclusive", unlessDefault isAll f.widenUpper (.bool f.widenUpper)),
      ("type", some (.str dateFieldKind))]

end DateField

end Almanac
