import Almanac.Pattern.Field
/-!
Templates: the text of directives that a pattern is translated to.

A percent sign and a code after it are a directive and stand for a field. All other characters stand
for themselves, and a percent sign that does is written twice. The literal text of a pattern ends up
in the template between the directives, unmarked.
-/

namespace Almanac.Pattern

/-- What a template is for. -/
inductive Use where
  | reading
  | writing
deriving DecidableEq

/-- The code of a field. An offset is read in any of its forms and written in its own. -/
def Field.code (use : Use) : Field → List Char
  | .year => ['Y']
  | .yearOfCentury => ['y']
  | .month => ['m']
  | .monthName false => ['b']
  | .monthName true => ['B']
  | .day => ['d']
  | .weekdayName false => ['a']
  | .weekdayName true => ['A']
  | .hour => ['H']
  | .clockHour => ['I']
  | .half => ['p']
  | .minute => ['M']
  | .second => ['S']
  | .fraction digits => Text.decimal digits ++ ['f']
  | .offset colon =>
    match use with
    | .reading => ['#', 'z']
    | .writing => if colon then [':', 'z'] else ['z']

namespace Template

inductive Piece where
  | literal (c : Char)
  | field (f : Field)
  /-- An offset in any of its forms; it can be read and not written. -/
  | anyOffset
  /-- A percent sign and no code after it. -/
  | unknown
deriving DecidableEq

/-- The codes and what they stand for. No code is the beginning of another one. -/
def codes : List (List Char × Piece) :=
  [(['%'], .literal '%'), (['Y'], .field .year), (['y'], .field .yearOfCentury),
    (['m'], .field .month), (['b'], .field (.monthName false)), (['B'], .field (.monthName true)),
    (['d'], .field .day), (['a'], .field (.weekdayName false)),
    (['A'], .field (.weekdayName true)), (['H'], .field .hour), (['I'], .field .clockHour),
    (['p'], .field .half), (['M'], .field .minute), (['S'], .field .second),
    (['3', 'f'], .field (.fraction 3)), (['6', 'f'], .field (.fraction 6)),
    (['9', 'f'], .field (.fraction 9)), (['z'], .field (.offset false)),
    ([':', 'z'], .field (.offset true)), (['#', 'z'], .anyOffset)]

def ofCode? (code : List Char) : Option Piece :=
  (codes.find? fun entry => entry.1 = code).map Prod.snd

/-- The pieces of a template from a place on. After a percent sign, `code` is what has followed it
so far; if that becomes no code, nothing more is looked at. -/
def pieces (code : Option (List Char)) : List Char → List Piece
  | [] => (code.map fun _ => Piece.unknown).toList
  | c :: cs =>
    match code with
    | none => if c = '%' then pieces (some []) cs else .literal c :: pieces none cs
    | some begun =>
      match ofCode? (begun ++ [c]) with
      | some piece => piece :: pieces none cs
      | none => pieces (some (begun ++ [c])) cs

/-- A piece of a moment as it is written. -/
def Piece.text? (m : Calendar.Moment) : Piece → Option (List Char)
  | .literal c => some [c]
  | .field f => some (f.text m)
  | .anyOffset | .unknown => none

/-- A moment as it is written by a template, if every piece can be written. -/
def text? (m : Calendar.Moment) (template : List Char) : Option (List Char) :=
  ((pieces none template).mapM (Piece.text? m)).map List.flatten

/-- Whether a template has codes after all of its percent signs. -/
def isKnown (template : List Char) : Bool := .unknown ∉ pieces none template

end Template

end Almanac.Pattern
