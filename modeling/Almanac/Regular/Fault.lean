import Almanac.Text.Blank
/-!
Faults of regular expressions: where in the text of an expression one is, and how it is shown.

A fault is shown below the rows of the text, with signs under the characters that it is about. The
rows of a text of several rows are numbered. A fault may point at a second part of the text, for
instance at the name that another one repeats.
-/

namespace Almanac.Regular

/-- A place in a text; rows and columns count from one. -/
structure Place where
  row : Nat := 1
  column : Nat := 1
deriving DecidableEq

def Place.after (p : Place) (c : Char) : Place :=
  if c = '\n' then ⟨p.row + 1, 1⟩ else { p with column := p.column + 1 }

/-- A part of a text, from a place up to but not including another. -/
structure Extent where
  first : Place
  last : Place
deriving DecidableEq

namespace Extent

/-- The part without a character at a place. -/
def point (p : Place) : Extent := ⟨p, p⟩

def inOneRow (e : Extent) : Bool := e.first.row = e.last.row

/-- Whether one part begins before another, or with it and does not end after it. -/
def precedes (a b : Extent) : Bool :=
  a.first.row < b.first.row || (a.first.row = b.first.row
    && (a.first.column < b.first.column || (a.first.column = b.first.column
      && (a.last.row < b.last.row || (a.last.row = b.last.row
        && a.last.column ≤ b.last.column)))))

end Extent

inductive Reason where
  | classEscape
  | classRange
  | classRangeEnd
  | classUnclosed
  | decimalTooBig
  | hexEmpty
  | hexNoCharacter
  | hexDigit
  | escapeUnfinished
  | escapeUnknown
  | negationDangling
  | flagTwice
  | negationTwice
  | flagUnfinished
  | flagUnknown
  | nameTwice
  | nameEmpty
  | nameCharacter
  | nameUnfinished
  | groupUnclosed
  | groupUnopened
  | nestedTooDeep
  | countRange
  | countEmpty
  | countUnclosed
  | nothingToRepeat
  | boundaryUnclosed
  | boundaryUnknown
  | boundaryUnfinished
  | propertyLetter
  | backreference
  | lookAround
  | needsUnicode
  | notUtf8
  | propertyUnknown
  | propertyValueUnknown
  | shorthandUnavailable
  | caseUnavailable
deriving DecidableEq

def deepest : Nat := 250

def Reason.message : Reason → String
  | .classEscape => "invalid escape sequence found in character class"
  | .classRange => "invalid character class range, the start must be <= the end"
  | .classRangeEnd => "invalid range boundary, must be a literal"
  | .classUnclosed => "unclosed character class"
  | .decimalTooBig => "decimal literal invalid"
  | .hexEmpty => "hexadecimal literal empty"
  | .hexNoCharacter => "hexadecimal literal is not a Unicode scalar value"
  | .hexDigit => "invalid hexadecimal digit"
  | .escapeUnfinished => "incomplete escape sequence, reached end of pattern prematurely"
  | .escapeUnknown => "unrecognized escape sequence"
  | .negationDangling => "dangling flag negation operator"
  | .flagTwice => "duplicate flag"
  | .negationTwice => "flag negation operator repeated"
  | .flagUnfinished => "expected flag but got end of regex"
  | .flagUnknown => "unrecognized flag"
  | .nameTwice => "duplicate capture group name"
  | .nameEmpty => "empty capture group name"
  | .nameCharacter => "invalid capture group character"
  | .nameUnfinished => "unclosed capture group name"
  | .groupUnclosed => "unclosed group"
  | .groupUnopened => "unopened group"
  | .nestedTooDeep =>
    "exceed the maximum number of nested parentheses/brackets (" ++ toString deepest ++ ")"
  | .countRange => "invalid repetition count range, the start must be <= the end"
  | .countEmpty => "repetition quantifier expects a valid decimal"
  | .countUnclosed => "unclosed counted repetition"
  | .nothingToRepeat => "repetition operator missing expression"
  | .boundaryUnclosed =>
    "special word boundary assertion is either unclosed or contains an invalid character"
  | .boundaryUnknown =>
    "unrecognized special word boundary assertion, valid choices are: start, end, start-half "
      ++ "or end-half"
  | .boundaryUnfinished =>
    "found either the beginning of a special word boundary or a bounded repetition on a \\b with "
      ++ "an opening brace, but no closing brace"
  | .propertyLetter => "invalid Unicode character class"
  | .backreference => "backreferences are not supported"
  | .lookAround => "look-around, including look-ahead and look-behind, is not supported"
  | .needsUnicode => "Unicode not allowed here"
  | .notUtf8 => "pattern can match invalid UTF-8"
  | .propertyUnknown => "Unicode property not found"
  | .propertyValueUnknown => "Unicode property value not found"
  | .shorthandUnavailable =>
    "Unicode-aware Perl class not found (make sure the unicode-perl feature is enabled)"
  | .caseUnavailable =>
    "Unicode-aware case insensitivity matching is not available (make sure the unicode-case "
      ++ "feature is enabled)"

/-- A reason, the part of the text that it is about, and a second part that explains it. -/
structure Fault where
  reason : Reason
  extent : Extent
  other : Option Extent := none
deriving DecidableEq

/-! ## Rows of a text -/

/-- The rows of a text; the last one has no character if the text ends with a line feed. -/
def splitRows : List Char → List (List Char)
  | [] => [[]]
  | c :: cs =>
    if c = '\n' then [] :: splitRows cs
    else
      match splitRows cs with
      | row :: rows => (c :: row) :: rows
      | [] => [[c]]

/-- A row without the carriage return at its end. -/
def withoutReturn (row : List Char) : List Char :=
  if row.getLast? = some '\r' then row.dropLast else row

/-- The rows of a text as they are shown: without one that holds nothing after the last line feed,
and without the carriage returns before line feeds. -/
def shownRows (cs : List Char) : List (List Char) :=
  let rows := splitRows cs
  let ended := rows.dropLast.map withoutReturn
  match rows.getLast? with
  | none | some [] => ended
  | some row => ended ++ [row]

/-! ## Signs under a row -/

/-- Blanks up to the first of some ordered parts of a row, signs under it, and so on. -/
def signs (column : Nat) : List Extent → List Char
  | [] => []
  | e :: rest =>
    let gap := e.first.column - column
    let width := max 1 (e.last.column - e.first.column)
    List.replicate gap ' ' ++ List.replicate width '^' ++ signs (column + gap + width) rest

namespace Fault

/-- The parts that a fault points at, in order. -/
def extents (f : Fault) : List Extent :=
  match f.other with
  | none => [f.extent]
  | some e => if e.precedes f.extent then [e, f.extent] else [f.extent, e]

/-- A row behind its margin, and the signs under it. -/
def rowLines (f : Fault) (margin : List Char) (number : Nat) (row : List Char) : List String :=
  let here := f.extents.filter fun e => e.inOneRow && e.first.row = number
  let under := if here = [] then [] else [List.replicate margin.length ' ' ++ signs 1 here]
  ((margin ++ row) :: under).map String.ofList

/-- The rows behind margins that depend on their numbers, with the signs under them. -/
def numberedLines (f : Fault) (margin : Nat → List Char) (number : Nat) :
    List (List Char) → List String
  | [] => []
  | row :: rows =>
    f.rowLines (margin number) number row ++ f.numberedLines margin (number + 1) rows

/-- What is said of a part of more than one row. -/
def manyRows (e : Extent) : String :=
  "on line " ++ toString e.first.row ++ " (column " ++ toString e.first.column ++ ") through line "
    ++ toString e.last.row ++ " (column " ++ toString (e.last.column - 1) ++ ")"

/-- The number of a row, as wide as the greatest, before its row. -/
def numberMargin (width number : Nat) : List Char :=
  let digits := (toString number).toList
  List.replicate (width - digits.length) ' ' ++ digits ++ [':', ' ']

def render (f : Fault) (text : List Char) : String :=
  let rows := shownRows text
  let heading := "regex parse error:"
  let closing := "error: " ++ f.reason.message
  let lines :=
    if text.contains '\n' then
      let width := (toString (splitRows text).length).length
      let rule := String.ofList (List.replicate 79 '~')
      [heading, rule] ++ f.numberedLines (numberMargin width) 1 rows ++ [rule]
        ++ (f.extents.filter (!·.inOneRow)).map manyRows ++ [closing]
    else [heading] ++ f.numberedLines (fun _ => "    ".toList) 1 rows ++ [closing]
  "\n".intercalate lines

end Fault

example : (⟨.groupUnclosed, ⟨⟨1, 1⟩, ⟨1, 2⟩⟩, none⟩ : Fault).render "(a".toList
    = "regex parse error:\n    (a\n    ^\nerror: unclosed group" := by rfl

end Almanac.Regular
