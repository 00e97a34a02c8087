import Almanac.Cli.Session
import Almanac.FileTree
import Almanac.Json.Printer
import Almanac.Mapping
/-!
Setting up the field and the present that a command works with.

The settings of the mapping file come first, and those of the command line replace them. The present
may be given as a value of the field, which is resolved against the clock.
-/

namespace Almanac.Cli

/-- A mapping file: its path, and its text or why it cannot be read. -/
structure MappingFile where
  path : String
  content : Except Unreadable String

/-- What a command says about the field and the present. -/
structure Setup where
  mapping : Option MappingFile := none
  format : Option String := none
  scale : Option Scale := none
  now : Option String := none

/-- A field and the present of a request. -/
structure Request where
  field : DateField
  now : Instant

namespace Setup

def mappingOf (file : MappingFile) : Session Mapping :=
  match file.content with
  | .error reason =>
    throw (Failure.within ("Failed to read mapping file: " ++ file.path)
      ⟨[], .other reason.message⟩)
  | .ok text => Session.within ("Failed to load mapping file: " ++ file.path) (Mapping.parse text)

/-- The settings of the file, replaced by those that the command gives. -/
def settings (s : Setup) : Session Mapping := do
  let m ← match s.mapping with
    | some file => mappingOf file
    | none => pure {}
  return { m with format := s.format <|> m.format, scale := s.scale <|> m.scale }

/-- The part of the program that the field is logged under. -/
def target : String := "datefield::cli::field"

def fieldEntry (f : DateField) : Log.Entry :=
  ⟨.debug, target, "Using field mapping " ++ (f.toMapping true).compact⟩

def field (s : Setup) : Session DateField := do
  let m ← s.settings
  let f ← Session.within "Failed to build date field" m.build
  Session.note [fieldEntry f]
  return f

/-- The present: the given value of the field, or else that of the clock. -/
def present (s : Setup) (clock : Instant) (f : DateField) : Session Instant :=
  match s.now with
  | none => pure clock
  | some text => do
    Session.note (f.resolver.journal text clock .down)
    Session.within ("Failed to resolve --now '" ++ text ++ "'") (f.resolve (.text text) clock)

def request (s : Setup) (clock : Instant) : Session Request := do
  let f ← s.field
  return ⟨f, ← s.present clock f⟩

end Setup

end Almanac.Cli
