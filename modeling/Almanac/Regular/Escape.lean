import Almanac.Regular.Cursor
/-!
Single signs of regular expressions and escapes, which begin with a backslash: characters by number
or by letter, classes with a letter of their own, properties, and conditions on words.
-/

namespace Almanac.Regular.Reader

/-- Characters that stand for themselves after a backslash because they have a meaning without. -/
def isMeta (c : Char) : Bool := "\\.+*?()|[]\x7b\x7d^$#&-~".toList.contains c

/-- Whether an ASCII character without a meaning stands for itself after a backslash. -/
def isSuperfluous (c : Char) : Bool :=
  c.toNat < 0x80 && !c.isAlphanum && c ≠ '<' && c ≠ '>'

/-- The characters that are written as a letter after a backslash. -/
def lettered? : Char → Option Char
  | 'a' => some '\x07'
  | 'f' => some '\x0c'
  | 't' => some '\t'
  | 'n' => some '\n'
  | 'r' => some '\r'
  | 'v' => some '\x0b'
  | _ => none

/-- The conditions that are written as a letter or sign after a backslash. -/
def assertion? : Char → Option Assertion
  | 'A' => some .textStart
  | 'z' => some .textEnd
  | 'b' => some .boundary
  | 'B' => some .noBoundary
  | '<' => some .wordStart
  | '>' => some .wordEnd
  | _ => none

/-! ## Characters by number -/

def hexDigit? (c : Char) : Option Nat :=
  if '0' ≤ c ∧ c ≤ '9' then some (c.toNat - 48)
  else if 'a' ≤ c ∧ c ≤ 'f' then some (c.toNat - 87)
  else if 'A' ≤ c ∧ c ≤ 'F' then some (c.toNat - 55)
  else none

def hexValue (digits : List Char) : Nat :=
  digits.foldl (fun n c => n * 16 + (hexDigit? c).getD 0) 0

/-- The character of a number, if there is one. -/
def scalar? (n : Nat) : Option Char := if n.isValidChar then some (Char.ofNat n) else none

/-- Reads a number of hexadecimal digits after the first place. -/
def hexDigits (isFirst : Bool) : Nat → Reader (List Char)
  | 0 => return []
  | n + 1 => do
    if !isFirst then stepAndSkip
    match ← peek? with
    | none => fail .escapeUnfinished (← get).point
    | some c =>
      if (hexDigit? c).isNone then fail .hexDigit (← get).ofNext
      return c :: (← hexDigits false n)

/-- Reads a character that is written as a fixed number of hexadecimal digits. -/
def fixedHex (start : Place) (count : Nat) : Reader Literal := do
  let first ← place
  let digits ← hexDigits true count
  stepAndSkip
  match scalar? (hexValue digits) with
  | none => fail .hexNoCharacter ((← get).since first)
  | some c => return ⟨(← get).since start, c, count = 2⟩

/-- Reads a character that is written as hexadecimal digits between braces. -/
def bracedHex (start : Place) : Reader Literal := do
  let brace ← get
  stepAndSkip
  let digits ← takeWhile true fun c => (hexDigit? c).isSome
  match ← peek? with
  | none => fail .escapeUnfinished ((← get).since brace.place)
  | some c =>
    if c ≠ '\x7d' then fail .hexDigit (← get).ofNext
  let last ← place
  stepAndSkip
  if digits = [] then fail .hexEmpty ((← get).since brace.place)
  match scalar? (hexValue digits) with
  | none => fail .hexNoCharacter ⟨brace.step.place, last⟩
  | some c => return ⟨(← get).since start, c, false⟩

/-- Reads a character by number, from the letter that says how many digits there are. -/
def hex (start : Place) (count : Nat) : Reader Literal := do
  stepAndSkip
  match ← peek? with
  | none => fail .escapeUnfinished (← get).point
  | some '\x7b' => bracedHex start
  | some _ => fixedHex start count

/-! ## Properties -/

/-- Parts a text at the first place where a separator stands in it. -/
def splitAtFirst? (separator : List Char) : List Char → Option (List Char × List Char)
  | [] => none
  | c :: cs =>
    if separator.isPrefixOf (c :: cs) then some ([], (c :: cs).drop separator.length)
    else (splitAtFirst? separator cs).map fun (name, value) => (c :: name, value)

/-- The property of a text between braces: a name, or a name, a sign and a value. -/
def propertyOf (cs : List Char) : Property :=
  match splitAtFirst? ['!', '='] cs <|> splitAtFirst? [':'] cs <|> splitAtFirst? ['='] cs with
  | some (name, value) => ⟨String.ofList name, some (String.ofList value)⟩
  | none => ⟨String.ofList cs, none⟩

def property (start : Place) : Reader Primitive := do
  stepAndSkip
  match ← peek? with
  | none => fail .escapeUnfinished (← get).point
  | some '\x7b' => do
    stepAndSkip
    let name ← takeWhile true (· ≠ '\x7d')
    if (← peek?).isNone then fail .escapeUnfinished (← get).point
    step
    return .property ((← get).since start) (propertyOf name)
  | some '\\' => fail .propertyLetter (← get).ofNext
  | some c => do
    stepAndSkip
    return .property ((← get).since start) ⟨c.toString, none⟩

/-! ## Conditions on words -/

/-- The conditions that have names. -/
def wordCondition? : String → Option Assertion
  | "start" => some .wordStart
  | "end" => some .wordEnd
  | "start-half" => some .wordStartHalf
  | "end-half" => some .wordEndHalf
  | _ => none

def isConditionLetter (c : Char) : Bool := c.isAlpha || c = '-'

/-- Reads the name of a condition between braces, unless what is there begins like no name. -/
def namedCondition? (start : Place) : Reader (Option Assertion) := do
  let brace ← get
  stepAndSkip
  match ← peek? with
  | none => fail .boundaryUnfinished ((← get).since start)
  | some c =>
    if !isConditionLetter c then
      set brace
      return none
    else
      let first ← place
      let name ← takeWhile true isConditionLetter
      if (← peek?) ≠ some '\x7d' then fail .boundaryUnclosed ((← get).since brace.place)
      let named := (← get).since first
      step
      match wordCondition? (String.ofList name) with
      | none => fail .boundaryUnknown named
      | some a => return some a

def condition (start : Place) (a : Assertion) : Reader Primitive := do
  let named ←
    if a = .boundary ∧ (← peek?) = some '\x7b' then namedCondition? start else pure none
  return .assertion ((← get).since start) (named.getD a)

/-! ## Escapes and signs -/

/-- Reads an escape that is one character after the backslash. -/
def oneLetter (start : Place) (c : Char) : Reader Primitive := do
  step
  let extent := (← get).since start
  if isMeta c || isSuperfluous c then return .literal ⟨extent, c, false⟩
  else
    match lettered? c, assertion? c with
    | some d, _ => return .literal ⟨extent, d, false⟩
    | none, some a => condition start a
    | none, none => fail .escapeUnknown extent

/-- Reads a class that has a letter of its own. -/
def shorthand (start : Place) (kind : AsciiClass) (negated : Bool) : Reader Primitive := do
  step
  return .shorthand ((← get).since start) kind negated

def escape : Reader Primitive := do
  let start ← place
  step
  match ← peek? with
  | none => fail .escapeUnfinished ((← get).since start)
  | some 'x' => return .literal (← hex start 2)
  | some 'u' => return .literal (← hex start 4)
  | some 'U' => return .literal (← hex start 8)
  | some 'p' | some 'P' => property start
  | some 'd' => shorthand start .digit false
  | some 'D' => shorthand start .digit true
  | some 's' => shorthand start .space false
  | some 'S' => shorthand start .space true
  | some 'w' => shorthand start .word false
  | some 'W' => shorthand start .word true
  | some c =>
    if c.isDigit then fail .backreference ⟨start, (← get).ofNext.last⟩
    else oneLetter start c

/-- Reads a sign that stands for itself, an escape or one of the signs with a meaning of their
own. -/
def primitive (c : Char) : Reader Primitive := do
  if c = '\\' then escape
  else
    let extent := (← get).ofNext
    step
    match c with
    | '.' => return .dot extent
    | '^' => return .assertion extent .lineStart
    | '$' => return .assertion extent .lineEnd
    | _ => return .literal ⟨extent, c, false⟩

end Almanac.Regular.Reader
