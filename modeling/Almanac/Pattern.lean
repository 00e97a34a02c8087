import Almanac.Calendar.Arithmetic
import Almanac.Pattern.Template
/-!
Date patterns: literal text and fields in a fixed order.

In a pattern two adjacent quotes stand for one quote, any other quote opens or closes a quoted
section, and each run of one ASCII letter outside quotes is a field. All other characters, and all
characters of a quoted section, stand for themselves.

`Pattern.compile` takes a pattern apart and checks that it can be translated to templates;
`Pattern.write` prints an instant by the template for writing. `Pattern.text` says what that comes
to, item by item.
-/

namespace Almanac

namespace Pattern

/-! ## Taking a pattern apart -/

/-- A part of a pattern: a literal character, a run of a letter that begins where `rest` is left,
or a quote that begins where `rest` is left and is never closed. -/
inductive Part where
  | literal (c : Char)
  | run (letter : Char) (count : Nat) (rest : List Char)
  | unclosed (rest : List Char)
deriving DecidableEq

/-- Puts a letter, which `rest` begins with, in front of parts; it joins a run of its own. -/
def addLetter (letter : Char) (rest : List Char) : List Part → List Part
  | .run other count after :: parts =>
    if other = letter then .run letter (count + 1) rest :: parts
    else .run letter 1 rest :: .run other count after :: parts
  | parts => .run letter 1 rest :: parts

/-- The parts of a pattern from a place on. Within a quoted section, `quote` is the text that was
left where it opened. -/
def partsFrom (quote : Option (List Char)) : List Char → List Part
  | [] => (quote.map Part.unclosed).toList
  | '\'' :: '\'' :: cs => .literal '\'' :: partsFrom quote cs
  | c :: cs =>
    if c = '\'' then
      match quote with
      | none => partsFrom (some (c :: cs)) cs
      | some _ => partsFrom none cs
    else if quote = none ∧ c.isAlpha then addLetter c (c :: cs) (partsFrom none cs)
    else .literal c :: partsFrom quote cs

def parts (pattern : List Char) : List Part := partsFrom none pattern

/-! ## Compiling -/

/-- An item of a pattern: a literal character or a field. -/
inductive Item where
  | literal (c : Char)
  | field (f : Field)
deriving DecidableEq

inductive Problem where
  | unclosedQuote
  | tooMany (letter : Char)
  | zoneName
  | unknownLetter (letter : Char)
  | noFields
  | inexpressible

def Problem.message : Problem → String
  | .unclosedQuote => "unterminated quoted literal"
  | .tooMany letter => "too many '" ++ letter.toString ++ "' letters"
  | .zoneName => "time zone ids are not supported, use Z or ZZ for an offset"
  | .unknownLetter letter => "unsupported pattern letter '" ++ letter.toString ++ "'"
  | .noFields => "pattern has no date or time fields"
  | .inexpressible => "pattern cannot be expressed as a chrono format"

/-- What is wrong with a run that is no field. -/
def Problem.ofRun (letter : Char) : Problem :=
  if letter = 'Z' then .zoneName
  else if letter ∈ ['d', 'H', 'h', 'a', 'm', 's'] then .tooMany letter
  else .unknownLetter letter

/-- A mistake in a pattern: the text that was left where it begins, its bytes, and what is
wrong. -/
structure Slip where
  rest : List Char
  width : Nat
  problem : Problem

/-- The span of a slip in the pattern of which its rest is the end. -/
def Slip.span (s : Slip) (pattern : List Char) : Span :=
  let start := Text.byteLength pattern - Text.byteLength s.rest
  ⟨start, start + s.width⟩

def Slip.toFault (s : Slip) (pattern : List Char) : Fault :=
  .badPattern (String.ofList pattern) (s.span pattern) s.problem.message

def Part.item : Part → Except Slip Item
  | .literal c => .ok (.literal c)
  | .run letter count rest =>
    match Field.ofRun? letter count with
    | some f => .ok (.field f)
    | none => .error ⟨rest, count, .ofRun letter⟩
  | .unclosed rest => .error ⟨rest, Text.byteLength rest, .unclosedQuote⟩

/-- The calendar unit that an item spells out. -/
def Item.unit? : Item → Option CalendarUnit
  | .literal _ => none
  | .field f => f.unit?

/-- The finer of two units, either of which may be missing. -/
def finerOf : Option CalendarUnit → Option CalendarUnit → Option CalendarUnit
  | some u, some v => some (u.finer v)
  | none, v => v
  | u, none => u

/-- The finest unit that items spell out, if any. -/
def finestUnit? (items : List Item) : Option CalendarUnit :=
  items.foldl (fun finest item => finerOf finest item.unit?) none

/-! ## Templates -/

/-- An item in a template. -/
def Item.inTemplate (use : Use) : Item → List Char
  | .literal c => if c = '%' then ['%', '%'] else [c]
  | .field f => '%' :: f.code use

def template (use : Use) (items : List Item) : List Char := items.flatMap (Item.inTemplate use)

/-- Whether the templates of items have codes after all of their percent signs. -/
def isExpressible (items : List Item) : Bool :=
  Template.isKnown (template .reading items) && Template.isKnown (template .writing items)

end Pattern

/-- A compiled date pattern. -/
structure Pattern where
  /-- The pattern as it was written. -/
  source : List Char
  items : List Pattern.Item
  /-- The finest unit that the pattern spells out. -/
  precision : CalendarUnit
deriving DecidableEq

namespace Pattern

/-- Compiles a pattern; the first mistake in it, from the left, is reported. -/
def compile (pattern : List Char) : Except Fault Pattern := do
  let items ← ((parts pattern).mapM Part.item).mapError fun slip => slip.toFault pattern
  match finestUnit? items with
  | some precision =>
    if isExpressible items then return ⟨pattern, items, precision⟩
    else throw (Slip.toFault ⟨pattern, Text.byteLength pattern, .inexpressible⟩ pattern)
  | none =>
    throw (Slip.toFault ⟨pattern, Text.byteLength pattern, .noFields⟩ pattern)

/-! ## Writing -/

/-- An item of a moment as it is written; literal characters stand for themselves. -/
def Item.text (m : Calendar.Moment) : Item → List Char
  | .literal c => [c]
  | .field f => f.text m

/-- The text of a moment, item by item. -/
def text (p : Pattern) (m : Calendar.Moment) : List Char := p.items.flatMap (Item.text m)

/-- Writes an instant of the supported calendar by the template of the pattern, in UTC. -/
def write (p : Pattern) (i : Instant) : Except Fault (List Char) :=
  i.require (i.moment?.bind fun m => Template.text? m (template .writing p.items))

end Pattern

end Almanac
