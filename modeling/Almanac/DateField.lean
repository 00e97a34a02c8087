import Almanac.Index
import Almanac.Resolver.Range
import Almanac.Window
/-!
Date fields: what the mapping of a field compiles to.

A field resolves values for indexing, prints stored instants, and builds the queries that an index
answers. All operations of one request take the same present.
-/

namespace Almanac

/-- A compiled date field. -/
structure DateField where
  resolver : Resolver
  /-- The text that stands for a missing value. -/
  nullValue : Option String
  precisionStep : UInt32
  /-- Whether inclusive upper bounds are widened. -/
  widenUpper : Bool
deriving DecidableEq

namespace DateField

/-- The field of a mapping that says nothing. -/
def default : DateField := ⟨⟨.default, .milliseconds⟩, none, defaultPrecisionStep, true⟩

instance : Inhabited DateField := ⟨default⟩

def layout (f : DateField) : Layout := f.resolver.layout

/-- Resolves a value for indexing. -/
def resolve (f : DateField) (input : Input) (now : Instant) : Except Fault Instant := do
  return (← f.resolver.resolve input now .down).instant

/-- Resolves a value that may be missing; then the null value stands for it, if there is one. -/
def resolveOptional (f : DateField) (input : Option Input) (now : Instant) :
    Except Fault (Option Instant) :=
  match input, f.nullValue with
  | some input, _ => some <$> f.resolve input now
  | none, some text => some <$> f.resolve (.text text) now
  | none, none => .ok none

def display (f : DateField) (i : Instant) : Except Fault String :=
  String.ofList <$> f.layout.write i

def canonical (i : Instant) : Except Fault String :=
  String.ofList <$> Timestamp.writeCanonical i

/-- The query for exactly the instant of a value. -/
def term (f : DateField) (input : Input) (now : Instant) : Except Fault Query := do
  return .exact (← f.resolve input now).millis f.precisionStep

def rangeRules (f : DateField) (includeLower includeUpper : Bool) : Resolver.RangeRules :=
  ⟨includeLower, includeUpper, f.widenUpper⟩

def range (f : DateField) (lower upper : Option Input) (includeLower includeUpper : Bool)
    (now : Instant) : Except Fault Interval :=
  f.resolver.range lower upper (f.rangeRules includeLower includeUpper) now

/-- The query for a resolved range. -/
def query (f : DateField) (r : Interval) : Query := r.query f.precisionStep

def window (f : DateField) (input : Input) (tolerance : String) (now : Instant) :
    Except Fault Window := do
  Window.read (← f.resolve input now) tolerance

/-- The query for documents that hold the null value, if there is one. -/
def nullValueQuery (f : DateField) (now : Instant) : Except Fault (Option Query) :=
  match f.nullValue with
  | none => .ok none
  | some text => some <$> f.term (.text text) now

end DateField

end Almanac
