/-!
Control sequences of terminals, and what a text shows without them.

An escape character begins a sequence. What follows it decides about its kind, and so about its end:
a letter or sign for most, and a string terminator, which is a sequence itself, for those that hold
a text. Of the control characters only the blank ones are shown. A blank one inside a sequence
interrupts it: what follows is shown up to the next character that cannot be, and there the sequence
goes on, unless a character outside ASCII came between.
-/

namespace Almanac.Text

/-- How far a control sequence has come. -/
inductive Sequence where
  /-- There is none. -/
  | outside
  /-- After the escape character. -/
  | escape
  /-- Signs between the escape character and the last. -/
  | signs
  /-- Parameters and signs of a control function. -/
  | control
  /-- The text of a command to the system; a bell also ends it. -/
  | command
  /-- The start of a text for the device. -/
  | device
  /-- Parameters of a text for the device. -/
  | deviceParameters
  /-- Signs after the parameters of a text for the device. -/
  | deviceSigns
  /-- The text for the device. -/
  | deviceText
  /-- A text of another kind. -/
  | message
deriving DecidableEq

/-- Whether the code point of a character lies between two others or is one of them. -/
def isFrom (low high : Nat) (c : Char) : Bool := low ≤ c.toNat && c.toNat ≤ high

/-- Whether a character is a control character that leaves a blank. -/
def isBlankControl (c : Char) : Bool := c = '\t' || c = '\n' || c = '\x0c' || c = '\r'

/-- Whether a character is shown outside sequences. -/
def isShown (c : Char) : Bool := isFrom 0x20 0x7E c || 0x80 ≤ c.toNat || isBlankControl c

/-- Whether the byte 0x9C, which ends texts in sequences, is in the UTF-8 form of a character. -/
def holdsTerminator (c : Char) : Bool :=
  let n := c.toNat
  let byte (shift : Nat) : Bool := n / shift % 64 = 0x1C
  0x80 ≤ n && (byte 1 || (0x800 ≤ n && byte 64) || (0x10000 ≤ n && byte 4096))

namespace Sequence

/-- The sequence that a character after the escape character begins or ends. -/
def afterEscape (c : Char) : Sequence :=
  if isFrom 0x20 0x2F c then .signs
  else if c = '[' then .control
  else if c = ']' then .command
  else if c = 'P' then .device
  else if c = 'X' || c = '^' || c = '_' then .message
  else if isFrom 0x30 0x7E c then .outside
  else .escape

/-- How a character goes on with a sequence. -/
def next (q : Sequence) (c : Char) : Sequence :=
  if c = '\x1b' then .escape
  else if c = '\x18' || c = '\x1a' then .outside
  else
    match q with
    | .outside => .outside
    | .escape => afterEscape c
    | .signs => if isFrom 0x30 0x7E c then .outside else q
    | .control => if isFrom 0x40 0x7E c then .outside else q
    | .command => if c = '\x07' then .outside else q
    | .device =>
      if isFrom 0x20 0x2F c then .deviceSigns
      else if isFrom 0x30 0x3F c then .deviceParameters
      else if isFrom 0x40 0x7E c then .deviceText
      else q
    | .deviceParameters =>
      if isFrom 0x20 0x2F c then .deviceSigns
      else if isFrom 0x3C 0x7E c then .deviceText
      else q
    | .deviceSigns => if isFrom 0x30 0x7E c then .deviceText else q
    | .deviceText => if holdsTerminator c then .outside else q
    | .message => if holdsTerminator c then .outside else q

/-- Whether a character is shown while a sequence is going on. -/
def shows (q : Sequence) (c : Char) : Bool :=
  match q with
  | .outside => isShown c
  | .escape | .signs | .control => isBlankControl c
  | _ => false

end Sequence

/-- What a text shows, from a state in which a sequence may be going on or interrupted. -/
def shownFrom (q : Sequence) (interrupted : Bool) : List Char → List Char
  | [] => []
  | c :: cs =>
    if interrupted && isShown c then
      c :: shownFrom (if 0x80 ≤ c.toNat then .outside else q) true cs
    else if q.shows c then c :: shownFrom (q.next c) true cs
    else shownFrom (q.next c) false cs

/-- What a text shows without its control sequences and characters. -/
def shown (cs : List Char) : List Char := shownFrom .outside false cs

example : shown "\x1b[31mred\x1b[0m".toList = "red".toList := by decide
example : shown "\x1b]0;title\x07a\x7fb".toList = "ab".toList := by decide
example : shown "\x1b[3\n1m".toList = "\n1m".toList := by decide

end Almanac.Text
