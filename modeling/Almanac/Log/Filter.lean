import Almanac.Log
import Almanac.Regular
import Almanac.Text.Ascii
import Almanac.Text.Blank
import Almanac.Text.Bytes
/-!
Filters of log entries, in text.

A filter is a list of directives with commas between, each a level, a target, or a target and a
level with an equals sign between; a slash may follow, and a regular expression that every shown
entry must match. The directive with the longest target that an entry's target begins with decides
about it.
-/

namespace Almanac.Log

/-- The most detail that is shown; none when everything is off. -/
abbrev Threshold := Option Level

def thresholds : List (String × Threshold) :=
  [("OFF", none), ("ERROR", some .error), ("WARN", some .warn), ("INFO", some .info),
    ("DEBUG", some .debug), ("TRACE", some .trace)]

/-- The threshold of a name in any ASCII case. -/
def thresholdOf? (name : List Char) : Option Threshold :=
  (thresholds.find? fun t => t.1.toList == Text.upper name).map Prod.snd

/-- What is shown of the targets that begin in a certain way; without a target, of all. -/
structure Directive where
  target : Option (List Char)
  threshold : Threshold
deriving DecidableEq

def Directive.length (d : Directive) : Nat := (d.target.map Text.byteLength).getD 0

def Directive.covers (d : Directive) (target : String) : Bool :=
  (d.target.getD []).isPrefixOf target.toList

structure Filter where
  directives : List Directive
  /-- The expression that every shown entry must match. -/
  phrase : Option Regular.Expression

/-- The pieces of a text between separators; there is at least one. -/
def pieces (separator : Char) : List Char → List (List Char)
  | [] => [[]]
  | c :: cs =>
    if c = separator then [] :: pieces separator cs
    else
      match pieces separator cs with
      | piece :: rest => (c :: piece) :: rest
      | [] => [[c]]

/-- What a piece of a filter says: a directive, nothing, or what is wrong with it. -/
def readDirective (piece : List Char) : Except String (Option Directive) :=
  let invalid (part : List Char) := "invalid logging spec '" ++ String.ofList part ++ "'"
  match pieces '=' piece with
  | [[]] => .ok none
  | [name] =>
    match thresholdOf? name with
    | some threshold => .ok (some ⟨none, threshold⟩)
    | none => .ok (some ⟨some name, some .trace⟩)
  | [name, level] =>
    if Text.trim level = [] then .ok (some ⟨some name, some .trace⟩)
    else
      match thresholdOf? (Text.trim level) with
      | some threshold => .ok (some ⟨some name, threshold⟩)
      | none => .error (invalid (Text.trim level))
  | _ => .error (invalid piece)

/-- Puts a directive in the place of one with the same target, or at the end. -/
def addDirective (d : Directive) : List Directive → List Directive
  | [] => [d]
  | e :: rest => if e.target = d.target then d :: rest else e :: addDirective d rest

/-- The directives of a filter, and what is wrong with it. -/
def readDirectives (text : List Char) : List Directive × List String :=
  ((pieces ',' text).map fun piece => readDirective (Text.trim piece)).foldl
    (fun acc r => match r with
      | .ok (some d) => (addDirective d acc.1, acc.2)
      | .ok none => acc
      | .error message => (acc.1, acc.2 ++ [message])) ([], [])

/-- Reads a filter, and says what is wrong with it. A filter without directives shows errors. -/
def Filter.read (text : String) : Filter × List String :=
  let withDefault (ds : List Directive) := if ds = [] then [⟨none, some .error⟩] else ds
  match pieces '/' text.toList with
  | [directives] =>
    let (ds, wrong) := readDirectives directives
    (⟨withDefault ds, none⟩, wrong)
  | [directives, phrase] =>
    let (ds, wrong) := readDirectives directives
    match Regular.compile phrase with
    | .ok e => (⟨withDefault ds, some e⟩, wrong)
    | .error p =>
      (⟨withDefault ds, none⟩, wrong ++ ["invalid regex filter - " ++ p.message phrase])
  | _ => (⟨withDefault [], none⟩, ["invalid logging spec '" ++ text ++ "' (too many '/'s)"])

/-- The directive about a target that has the longest target itself; of two, the later. -/
def Filter.directive? (f : Filter) (target : String) : Option Directive :=
  (f.directives.filter (·.covers target)).foldl (fun best d =>
    match best with
    | some b => if b.length ≤ d.length then some d else best
    | none => some d) none

def Filter.shows (f : Filter) (e : Entry) : Bool :=
  match f.directive? e.target with
  | some ⟨_, some most⟩ =>
    e.level.rank ≤ most.rank && f.phrase.all fun phrase => phrase.found e.message.toList
  | _ => false

end Almanac.Log
