import Almanac.Scale
import Almanac.Text.Integer
/-!
Arguments of the command line.

Switches may stand before or after the name of the command; what is given after it wins. A switch is
written in full after two dashes, with its value after an equals sign or as the next argument, or as
one letter after a single dash, where letters without values may be joined. Other arguments are
operands, and two dashes alone turn all that follow into operands.
-/

namespace Almanac.Cli

/-! ## Grammar -/

structure Switch where
  name : String
  letter : Option Char
  takesValue : Bool
  /-- Whether any next argument is its value, also one that begins with a dash. -/
  takesAny : Bool
deriving DecidableEq

/-- The operands that a command takes at a place. -/
structure Operand where
  /-- Whether it may begin with a dash, unless all of it is known. -/
  takesDashes : Bool
  /-- Whether it must be a number that a word can hold; it may be negative. -/
  takesWords : Bool
  /-- Whether it may be repeated. -/
  repeats : Bool
deriving DecidableEq

/-- What may be written on one level of the command line. -/
structure Grammar where
  switches : List Switch
  operands : List Operand

def commonSwitches : List Switch :=
  [⟨"mapping", some 'm', true, false⟩, ⟨"format", some 'F', true, false⟩,
    ⟨"numeric-resolution", some 'r', true, false⟩, ⟨"now", none, true, true⟩,
    ⟨"verbose", some 'v', false, false⟩, ⟨"color", none, true, false⟩,
    ⟨"json", none, false, false⟩, ⟨"help", some 'h', false, false⟩]

def boundSwitches : List Switch :=
  ["gt", "gte", "lt", "lte"].map fun name => ⟨name, none, true, true⟩

/-- What may be written before the name of the command. -/
def rootGrammar : Grammar := ⟨commonSwitches ++ [⟨"version", some 'V', false, false⟩], []⟩

inductive Command where
  | resolve
  | format
  | range
  | classify
  | fuzzy
deriving DecidableEq

namespace Command

def ofName? : String → Option Command
  | "resolve" => some .resolve
  | "format" => some .format
  | "range" => some .range
  | "classify" => some .classify
  | "fuzzy" => some .fuzzy
  | _ => none

/-- What may be written after the name of a command. -/
def grammar : Command → Grammar
  | .resolve => ⟨commonSwitches, [⟨true, false, true⟩]⟩
  | .format => ⟨commonSwitches, [⟨false, true, true⟩]⟩
  | .range => ⟨commonSwitches ++ boundSwitches, []⟩
  | .classify => ⟨commonSwitches, [⟨true, false, true⟩]⟩
  | .fuzzy => ⟨commonSwitches, [⟨true, false, false⟩, ⟨false, false, false⟩]⟩

end Command

/-! ## Scanning one level -/

/-- Why the scan of a command line ends early. -/
inductive Halt where
  /-- The arguments are not understood. -/
  | misuse
  /-- Help or the version is asked for. -/
  | help
deriving DecidableEq

/-- What has been found on one level so far. -/
structure Found where
  /-- The switches with their values, in order; empty for switches without one. -/
  switches : List (String × String) := []
  operands : List String := []
  /-- The switch whose value comes next. -/
  pending : Option Switch := none
  /-- A switch whose value came as an argument of its own, and that is added with what follows. -/
  held : Option (String × String) := none
  /-- The number of places of operands that are filled. -/
  place : Nat := 0
  /-- Whether the argument before was an operand that may be repeated. -/
  inOperand : Bool := false
  /-- Whether all that follows is operands. -/
  onlyOperands : Bool := false

namespace Found

def values (f : Found) (name : String) : List String :=
  (f.switches.filter fun s => s.1 == name).map Prod.snd

/-- The switches that end the scan at once. -/
def helpNames : List String := ["help", "version"]

/-- Whether a switch may have a value: a path is not empty, and a scale is known. -/
def takesText (name value : String) : Bool :=
  if name = "mapping" then value ≠ ""
  else if name = "numeric-resolution" then (Scale.ofName? value).isSome
  else true

/-- Records a switch, which may not be given twice on one level. -/
def record (f : Found) (name value : String) : Except Halt Found :=
  if takesText name value && f.values name = [] then
    .ok { f with switches := f.switches ++ [(name, value)] }
  else .error .misuse

/-- Records the switch that is held, if there is one. -/
def settle (f : Found) : Except Halt Found :=
  match f.held with
  | none => .ok f
  | some (name, value) => { f with held := none }.record name value

/-- Adds a switch that is complete. -/
def addSwitch (f : Found) (name value : String) : Except Halt Found := do
  let f ← f.settle
  if name ∈ helpNames then throw .help
  else return { ← f.record name value with pending := none, inOperand := false }

/-- Adds a switch whose value is the next argument. -/
def await (f : Found) (s : Switch) : Except Halt Found :=
  return { ← f.settle with pending := some s, inOperand := false }

def nextOperand? (f : Found) (g : Grammar) : Option Operand := g.operands[f.place]?

/-- Adds an operand, if there is a place for it that takes it. -/
def addOperand (f : Found) (g : Grammar) (value : String) : Except Halt Found := do
  let f ← f.settle
  match f.nextOperand? g with
  | none => throw .misuse
  | some o =>
    if o.takesWords && (Text.word? value.toList).isNone then throw .misuse
    else return { f with
      operands := f.operands ++ [value]
      place := if o.repeats then f.place else f.place + 1
      inOperand := o.repeats }

end Found

def Grammar.switch? (g : Grammar) (name : List Char) : Option Switch :=
  g.switches.find? fun s => s.name.toList == name

def Grammar.letter? (g : Grammar) (c : Char) : Option Switch :=
  g.switches.find? fun s => s.letter == some c

/-- Whether a text is the exponent of a number, which may be left out. -/
def isExponent : List Char → Bool
  | [] => true
  | c :: cs => (c = 'e' || c = 'E') && cs ≠ [] && cs.all Char.isDigit

/-- Whether a text after a dash is a number: digits, of which there is at least one before a point
and one after the letter of an exponent. -/
def isNumber (cs : List Char) : Bool :=
  cs.head?.any Char.isDigit &&
    match cs.dropWhile Char.isDigit with
    | '.' :: decimals => isExponent (decimals.dropWhile Char.isDigit)
    | rest => isExponent rest

example : isNumber "1.e5".toList = true := by decide +kernel
example : isNumber "1e".toList = false := by decide +kernel

/-- Whether an operand may be written as a dash and the letters `cs`. -/
def Operand.takesLetters (o : Operand) (g : Grammar) (cs : List Char) : Bool :=
  (o.takesWords && isNumber cs) || (o.takesDashes && cs.any fun c => (g.letter? c).isNone)

/-- Whether an argument is taken as an operand, or as the value of a switch, although it begins with
a dash. -/
def isDashedValue (g : Grammar) (f : Found) : List Char → Bool
  | '-' :: '-' :: [] => false
  | '-' :: '-' :: cs =>
    (g.switch? (cs.takeWhile (· ≠ '='))).isNone && (f.nextOperand? g).any (·.takesDashes)
  | '-' :: cs => (f.nextOperand? g).any fun o => o.takesLetters g cs
  | _ => false

/-- Whether an argument begins with a dash and more than that. -/
def isDashed : List Char → Bool
  | '-' :: _ :: _ => true
  | _ => false

/-- Takes the letters after a single dash. -/
def takeLetters (g : Grammar) (f : Found) : List Char → Except Halt Found
  | [] => .ok f
  | c :: cs =>
    match g.letter? c with
    | none => .error .misuse
    | some s =>
      if s.takesValue then
        match cs with
        | [] => f.await s
        | '=' :: value => f.addSwitch s.name (String.ofList value)
        | value => f.addSwitch s.name (String.ofList value)
      else do takeLetters g (← f.addSwitch s.name "") cs

/-- Takes a switch that is written in full. -/
def takeNamed (g : Grammar) (f : Found) (cs : List Char) : Except Halt Found :=
  let name := cs.takeWhile (· ≠ '=')
  match g.switch? name, cs.drop name.length with
  | none, _ => .error .misuse
  | some s, [] =>
    if s.takesValue then f.await s else f.addSwitch s.name ""
  | some s, _ :: value =>
    if s.takesValue then f.addSwitch s.name (String.ofList value) else .error .misuse

/-- Takes an argument that is not the value of a switch. -/
def takeArgument (g : Grammar) (f : Found) (arg : String) : Except Halt Found :=
  let isValue := f.onlyOperands || (f.inOperand && (f.nextOperand? g).any (·.takesDashes))
    || isDashedValue g f arg.toList
  if isValue then f.addOperand g arg
  else
    match arg.toList with
    | '-' :: '-' :: [] => .ok { f with onlyOperands := true }
    | '-' :: '-' :: cs => takeNamed g f cs
    | '-' :: c :: cs => takeLetters g f (c :: cs)
    | _ => f.addOperand g arg

def take (g : Grammar) (f : Found) (arg : String) : Except Halt Found :=
  match f.pending with
  | none => takeArgument g f arg
  | some s =>
    if s.takesAny || !isDashed arg.toList || isDashedValue g f arg.toList then
      .ok { f with pending := none, held := some (s.name, arg) }
    else .error .misuse

/-- A level must not end before the value of a switch. -/
def Found.finish (f : Found) : Except Halt Found :=
  if f.pending.isSome then .error .misuse else f.settle

/-- Scans the level after the name of a command. -/
def scanCommand (g : Grammar) (args : List String) : Except Halt Found := do
  (← args.foldlM (take g) {}).finish

/-- What the name `help` in the place of a command asks for: help about all, or about the command
after it. -/
def helpAbout : List String → Halt
  | [] => .help
  | [name] => if name = "help" || (Command.ofName? name).isSome then .help else .misuse
  | _ => .misuse

/-- Whether the name of a command may come next. -/
def Found.expectsCommand (f : Found) : Bool := f.pending.isNone && !f.onlyOperands

/-- Scans the level before the name of a command, up to it; a switch may still be held then. -/
def scanRoot (f : Found) : List String → Except Halt (Found × Command × List String)
  | [] => .error .misuse
  | arg :: rest =>
    if f.expectsCommand && arg = "help" then .error (helpAbout rest)
    else
      match (if f.expectsCommand then Command.ofName? arg else none) with
      | some command => .ok (f, command, rest)
      | none => do scanRoot (← take rootGrammar f arg) rest

/-! ## Arguments -/

structure Arguments where
  mapping : Option String
  format : Option String
  scale : Option Scale
  now : Option String
  verbose : Bool
  color : String
  json : Bool
  command : Command
  operands : List String
  /-- The switches of the command itself. -/
  bounds : List (String × String)

namespace Arguments

/-- The value of a switch on two levels; the inner level wins. -/
def value? (root inner : Found) (name : String) : Option String :=
  (inner.values name).head? <|> (root.values name).head?

def given (root inner : Found) (name : String) : Bool := (value? root inner name).isSome

def checkBounds (f : Found) : Except Halt Unit :=
  let both (a b : String) : Bool := f.values a ≠ [] && f.values b ≠ []
  if both "gt" "gte" || both "lt" "lte" then .error .misuse else .ok ()

/-- Checks the operands of a command: a window takes two. -/
def checkOperands (command : Command) (operands : List String) : Except Halt Unit :=
  if command = .fuzzy && operands.length ≠ 2 then .error .misuse else .ok ()

def parse (args : List String) : Except Halt Arguments := do
  let (outer, command, rest) ← scanRoot {} args
  let inner ← scanCommand command.grammar rest
  let root ← outer.settle
  checkBounds inner
  checkOperands command inner.operands
  return {
    mapping := value? root inner "mapping"
    format := value? root inner "format"
    scale := (value? root inner "numeric-resolution").bind Scale.ofName?
    now := value? root inner "now"
    verbose := given root inner "verbose"
    color := (value? root inner "color").getD "auto"
    json := given root inner "json"
    command
    operands := inner.operands
    bounds := inner.switches }

end Arguments

end Almanac.Cli
