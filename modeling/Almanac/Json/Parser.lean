import Almanac.Json.Value
import Almanac.Text.Ascii
/-!
Reading data values from text.

A text is cut into tokens, and the tokens drive a machine with a stack of the lists and records
that are still open. Numbers without point and exponent are integers when they lie between the
least signed and the greatest unsigned 64-bit integer; `-0` is not one. Escapes must name
characters, and at most 127 lists and records may be open at once.
-/

namespace Almanac.Json

/-- A token: punctuation, or a value that holds no others. -/
inductive Token where
  | openList
  | closeList
  | openRecord
  | closeRecord
  | comma
  | colon
  | value (j : Json)

/-! ## Quoted texts -/

def hexDigit? (c : Char) : Option Nat :=
  if c.isDigit then some (c.toNat - 48)
  else if 'a' ≤ c ∧ c ≤ 'f' then some (c.toNat - 87)
  else if 'A' ≤ c ∧ c ≤ 'F' then some (c.toNat - 55)
  else none

def hexFour? (a b c d : Char) : Option Nat := do
  return (((← hexDigit? a) * 16 + (← hexDigit? b)) * 16 + (← hexDigit? c)) * 16 + (← hexDigit? d)

/-- The character that a backslash and a letter stand for. -/
def shortEscape? : Char → Option Char
  | '"' => some '"'
  | '\\' => some '\\'
  | '/' => some '/'
  | 'b' => some '\x08'
  | 'f' => some '\x0c'
  | 'n' => some '\n'
  | 'r' => some '\r'
  | 't' => some '\t'
  | _ => none

/-- The character of a number that is no half of a pair. -/
def wholeUnit? (n : Nat) : Option Char :=
  if n < 0xD800 ∨ 0xE000 ≤ n then some (Char.ofNat n) else none

/-- The character of a high and a low half of a pair. -/
def pairedUnits? (high low : Nat) : Option Char :=
  if 0xD800 ≤ high ∧ high < 0xDC00 ∧ 0xDC00 ≤ low ∧ low < 0xE000 then
    some (Char.ofNat (0x10000 + (high - 0xD800) * 0x400 + (low - 0xDC00)))
  else none

/-- Puts a character in front of a text that was read. -/
def prepend (c : Char) (r : List Char × List Char) : List Char × List Char := (c :: r.1, r.2)

/-- The text up to the closing quote, and what follows it. -/
def quotedText? : List Char → Option (List Char × List Char)
  | [] => none
  | '"' :: rest => some ([], rest)
  | '\\' :: 'u' :: a :: b :: c :: d :: rest => do
    let n ← hexFour? a b c d
    match wholeUnit? n with
    | some ch => return prepend ch (← quotedText? rest)
    | none =>
      match rest with
      | '\\' :: 'u' :: e :: f :: g :: h :: rest =>
        return prepend (← pairedUnits? n (← hexFour? e f g h)) (← quotedText? rest)
      | _ => none
  | '\\' :: c :: rest => do return prepend (← shortEscape? c) (← quotedText? rest)
  | c :: rest => if c = '\\' ∨ c.toNat < 0x20 then none else (quotedText? rest).map (prepend c)

/-! ## Numbers -/

/-- The integers that are kept as such. -/
def isWhole (negative : Bool) (n : Nat) : Bool :=
  if negative then 0 < n && n ≤ 9223372036854775808 else n < UInt64.size

/-- The digits of a literal that count: as many as an unsigned 64-bit integer holds. The others
only move the point when they stand before it. -/
def significand (digits : List Char) : Nat × List Char :=
  digits.foldl (fun (acc : Nat × List Char) c =>
    let next := acc.1 * 10 + (c.toNat - 48)
    if acc.2 = [] ∧ next < UInt64.size then (next, []) else (acc.1, c :: acc.2)) (0, [])

/-- The number of a literal with its parts taken apart. -/
def realOf? (negative : Bool) (whole fraction : List Char) (exponent : Int) : Option Json :=
  let (n, dropped) := significand (whole ++ fraction)
  let kept : Int := (whole.length + fraction.length : Int) - dropped.length
  let places := exponent + whole.length - kept
  (Binary64.ofLiteral? negative n places).map Json.real

/-- The exponent of a literal, and what follows it; none is zero. -/
def exponent? : List Char → Option (Option Int × List Char)
  | c :: rest =>
    if c = 'e' ∨ c = 'E' then
      let (negative, rest) := match rest with
        | '-' :: r => (true, r)
        | '+' :: r => (false, r)
        | r => (false, r)
      let digits := rest.takeWhile Char.isDigit
      if digits = [] then none
      else
        let n : Int := min (Text.number digits) 100000
        some (some (if negative then -n else n), rest.drop digits.length)
    else some (none, c :: rest)
  | [] => some (none, [])

/-- The fraction of a literal, and what follows it; none is empty. -/
def fraction? : List Char → Option (List Char × List Char)
  | '.' :: rest =>
    let digits := rest.takeWhile Char.isDigit
    if digits = [] then none else some (digits, rest.drop digits.length)
  | rest => some ([], rest)

/-- The digits before the point, and what follows them; a leading zero stands alone. -/
def wholePart? (cs : List Char) : Option (List Char × List Char) :=
  match cs with
  | '0' :: rest => some (['0'], rest)
  | cs =>
    let digits := cs.takeWhile Char.isDigit
    if digits = [] then none else some (digits, cs.drop digits.length)

/-- The number at the start of a text, and what follows it. -/
def number? (cs : List Char) : Option (Json × List Char) := do
  let (negative, cs) := match cs with
    | '-' :: r => (true, r)
    | r => (false, r)
  let (whole, cs) ← wholePart? cs
  let (fraction, cs) ← fraction? cs
  let (exponent, cs) ← exponent? cs
  let n := Text.number whole
  if fraction = [] ∧ exponent = none ∧ isWhole negative n then
    return (.int (if negative then -n else n), cs)
  else
    return (← realOf? negative whole fraction (exponent.getD 0), cs)

/-! ## Tokens -/

/-- Whether a character may stand between tokens. -/
def isSeparator (c : Char) : Bool := c = ' ' || c = '\n' || c = '\t' || c = '\r'

/-- The token at the start of a text, and what follows it. -/
def token? : List Char → Option (Token × List Char)
  | [] => none
  | c :: rest =>
    if c = '[' then some (.openList, rest)
    else if c = ']' then some (.closeList, rest)
    else if c = '\x7b' then some (.openRecord, rest)
    else if c = '\x7d' then some (.closeRecord, rest)
    else if c = ',' then some (.comma, rest)
    else if c = ':' then some (.colon, rest)
    else if c = '"' then
      (quotedText? rest).map fun r => (.value (.str (String.ofList r.1)), r.2)
    else if c = 't' then (Text.after? "rue".toList rest).map fun r => (.value (.bool true), r)
    else if c = 'f' then (Text.after? "alse".toList rest).map fun r => (.value (.bool false), r)
    else if c = 'n' then (Text.after? "ull".toList rest).map fun r => (.value .null, r)
    else (number? (c :: rest)).map fun r => (.value r.1, r.2)

/-- The tokens of a text, found in at most `fuel` steps. -/
def tokensWithin? : Nat → List Char → Option (List Token)
  | 0, _ => none
  | fuel + 1, cs =>
    match cs.dropWhile isSeparator with
    | [] => some []
    | cs => do
      let (t, rest) ← token? cs
      return t :: (← tokensWithin? fuel rest)

/-- The tokens of a text; each takes at least one character. -/
def tokens? (cs : List Char) : Option (List Token) := tokensWithin? (cs.length + 1) cs

/-! ## Values -/

/-- A list or record that is still open, with what it holds so far, the last first. -/
inductive Frame where
  | list (items : List Json)
  | record (entries : List (String × Json))
  | entry (entries : List (String × Json)) (name : String)

/-- What may come next: a value, a value or the end of a list, a name or the end of a record, a
name, the colon after a name, or what follows a complete value. -/
inductive Awaits where
  | value
  | firstItem
  | firstName
  | name
  | colon
  | after (j : Json)

/-- The greatest number of lists and records that may be open at once. -/
def depthLimit : Nat := 127

/-- Opens a list or record, unless too many are open. -/
def openFrame (stack : List Frame) (frame : Frame) (awaits : Awaits) :
    Option (Awaits × List Frame) :=
  if stack.length < depthLimit then some (awaits, frame :: stack) else none

def beginValue (stack : List Frame) : Token → Option (Awaits × List Frame)
  | .value j => some (.after j, stack)
  | .openList => openFrame stack (.list []) .firstItem
  | .openRecord => openFrame stack (.record []) .firstName
  | _ => none

def takeName (stack : List Frame) (t : Token) : Option (Awaits × List Frame) :=
  match t, stack with
  | .value (.str name), .record entries :: stack => some (.colon, .entry entries name :: stack)
  | _, _ => none

/-- Goes on after a complete value. -/
def continueAfter (j : Json) (stack : List Frame) (t : Token) : Option (Awaits × List Frame) :=
  match t, stack with
  | .comma, .list items :: stack => some (.value, .list (j :: items) :: stack)
  | .closeList, .list items :: stack => some (.after (.arr (j :: items).reverse), stack)
  | .comma, .entry entries name :: stack => some (.name, .record ((name, j) :: entries) :: stack)
  | .closeRecord, .entry entries name :: stack =>
    some (.after (.obj ((name, j) :: entries).reverse), stack)
  | _, _ => none

def step (s : Awaits × List Frame) (t : Token) : Option (Awaits × List Frame) :=
  match s.1, t, s.2 with
  | .firstItem, .closeList, .list _ :: stack => some (.after (.arr []), stack)
  | .firstName, .closeRecord, .record _ :: stack => some (.after (.obj []), stack)
  | .value, t, stack => beginValue stack t
  | .firstItem, t, stack => beginValue stack t
  | .firstName, t, stack => takeName stack t
  | .name, t, stack => takeName stack t
  | .colon, .colon, stack => some (.value, stack)
  | .colon, _, _ => none
  | .after j, t, stack => continueAfter j stack t

/-- The value that a text stands for, if it is one. -/
def parse? (text : String) : Option Json := do
  let tokens ← tokens? text.toList
  match ← tokens.foldlM step (.value, []) with
  | (.after j, []) => some j
  | _ => none

end Almanac.Json
