import Almanac.Cli.Setup
import Almanac.Wire
/-!
Reports: what the commands show, in rows of labels and values and as data.
-/

namespace Almanac.Cli

/-- A report that can be shown in text and as data. -/
structure Report where
  /-- The rows of the report. -/
  rows : Style → List String
  data : Json

namespace Report

def text (r : Report) (s : Style) : String := "\n".intercalate (r.rows s)

end Report

/-! ## Resolving -/

/-- Resolves a value the way it is indexed, and shows it in canonical form and in the display
format. -/
def resolveReport (q : Request) (value : String) : Session Report := do
  Session.note (q.field.resolver.journal value q.now .down)
  let resolution ← Session.within ("Failed to resolve '" ++ value ++ "'")
    (q.field.resolver.resolve (.text value) q.now .down)
  let canonical ← Session.require (DateField.canonical resolution.instant)
  let display ← Session.require (q.field.display resolution.instant)
  return {
    rows := fun s =>
      [s.label "input" ++ value, s.label "stage" ++ resolution.stage.name,
        s.label "millis" ++ resolution.instant.render, s.label "canonical" ++ canonical,
        s.label "display" ++ display]
    data := .obj
      [("input", .str value), ("stage", .str resolution.stage.name),
        ("millis", resolution.instant.toJson), ("canonical", .str canonical),
        ("display", .str display)] }

/-- Shows a stored instant in canonical form and in the display format. -/
def formatReport (f : DateField) (i : Instant) : Session Report := do
  let canonical ← Session.require (DateField.canonical i)
  let display ← Session.require (f.display i)
  return {
    rows := fun s =>
      [s.label "millis" ++ i.render, s.label "canonical" ++ canonical,
        s.label "display" ++ display]
    data := .obj
      [("millis", i.toJson), ("canonical", .str canonical), ("display", .str display)] }

/-! ## Queries -/

/-- One side of a range on the command line. -/
structure BoundArgument where
  value : String
  inclusive : Bool

/-- The side that is given, an inclusive one first. -/
def BoundArgument.of? (strict inclusive : Option String) : Option BoundArgument :=
  (inclusive.map fun v => ⟨v, true⟩) <|> strict.map fun v => ⟨v, false⟩

/-- An end of a query as it is written. -/
def queryEnd (n : Option Int64) : String := (n.map fun n => toString n.toInt).getD "*"

/-- A truth value as it is written. -/
def truth (b : Bool) : String := if b then "true" else "false"

def queryRow (q : Query) : String :=
  "min=" ++ queryEnd q.min ++ " max=" ++ queryEnd q.max ++ " include_min=" ++ truth q.includeMin
    ++ " include_max=" ++ truth q.includeMax ++ " precision_step="
    ++ toString q.precisionStep.toNat

def canonicalEnd (b : Bound) : Session (Option String) :=
  match b.value with
  | none => pure none
  | some i => some <$> Session.require (DateField.canonical i)

/-- Resolves both sides of a range and shows the query. -/
def rangeReport (q : Request) (lower upper : Option BoundArgument) : Session Report := do
  let input (b : Option BoundArgument) : Option Input := b.map fun b => .text b.value
  let inclusive (b : Option BoundArgument) : Bool := b.all (·.inclusive)
  let rules := q.field.rangeRules (inclusive lower) (inclusive upper)
  Session.note (q.field.resolver.rangeJournal (input lower) (input upper) rules q.now)
  let range ← Session.within "Failed to build range"
    (q.field.resolver.range (input lower) (input upper) rules q.now)
  let query := q.field.query range
  let low ← canonicalEnd range.lower
  let high ← canonicalEnd range.upper
  return {
    rows := fun s =>
      [s.label "range" ++ range.render, s.label "lower" ++ low.getD "*",
        s.label "upper" ++ high.getD "*", s.label "cache" ++ s.cacheVerdict range.cacheable,
        s.label "query" ++ queryRow query]
    data := .obj
      [("range", range.toJson), ("query", query.toJson), ("lower", .ofOption .str low),
        ("upper", .ofOption .str high)] }

/-- Says whether a bound may be cached. -/
def classifyReport (expression : String) : Report :=
  let cacheable := !CacheSafety.isUnsafe expression.toList
  { rows := fun s => [s.cacheVerdict cacheable ++ " " ++ expression]
    data := .obj [("expression", .str expression), ("cacheable", .bool cacheable)] }

/-- Shows the window of a tolerance around a value. -/
def windowReport (q : Request) (value tolerance : String) : Session Report := do
  Session.note (q.field.resolver.journal value q.now .down)
  let window ← Session.within ("Failed to build window around '" ++ value ++ "'")
    (q.field.window (.text value) tolerance q.now)
  let low ← Session.require (DateField.canonical window.lower)
  let high ← Session.require (DateField.canonical window.upper)
  return {
    rows := fun s =>
      [s.label "window" ++ window.render, s.label "lower" ++ low, s.label "upper" ++ high]
    data := .obj
      [("window", window.toJson), ("query", (window.query q.field.precisionStep).toJson),
        ("lower", .str low), ("upper", .str high)] }

end Almanac.Cli
