import Almanac.Regular.Escape
/-!
Classes of characters in brackets: characters and ranges, named classes, classes inside classes, and
operators between sets, which are taken from left to right.
-/

namespace Almanac.Regular

def AsciiClass.ofName? : String → Option AsciiClass
  | "alnum" => some .alnum
  | "alpha" => some .alpha
  | "ascii" => some .ascii
  | "blank" => some .blank
  | "cntrl" => some .cntrl
  | "digit" => some .digit
  | "graph" => some .graph
  | "lower" => some .lower
  | "print" => some .print
  | "punct" => some .punct
  | "space" => some .space
  | "upper" => some .upper
  | "word" => some .word
  | "xdigit" => some .xdigit
  | _ => none

/-- What has been found between two operators so far. -/
structure Gathered where
  extent : Extent
  /-- The last item comes first. -/
  items : List ClassTree := []

def Gathered.add (g : Gathered) (t : ClassTree) : Gathered :=
  ⟨⟨if g.items.isEmpty then t.extent.first else g.extent.first, t.extent.last⟩, t :: g.items⟩

def Gathered.tree (g : Gathered) : ClassTree :=
  match g.items with
  | [] => .empty g.extent
  | [t] => t
  | ts => .union g.extent ts.reverse

/-- A bracket that is open. -/
structure Bracket where
  /-- The bracket with all that belongs to it before the first item. -/
  opening : Extent
  negated : Bool
  /-- The operator before what is being gathered, and the class before it. -/
  before : Option (SetOperator × ClassTree) := none
  gathered : Gathered

namespace Bracket

def add (b : Bracket) (t : ClassTree) : Bracket := { b with gathered := b.gathered.add t }

def tree (b : Bracket) : ClassTree :=
  let right := b.gathered.tree
  match b.before with
  | none => right
  | some (operator, left) =>
    .binary ⟨left.extent.first, right.extent.last⟩ operator left right

/-- The bracket after an operator. -/
def operate (b : Bracket) (operator : SetOperator) (p : Place) : Bracket :=
  { b with before := some (operator, b.tree), gathered := ⟨.point p, []⟩ }

end Bracket

namespace Reader

/-- Reads dashes that stand for themselves after an opening bracket. -/
def leadingDashes (start : Place) : Nat → Gathered → Reader Gathered
  | 0, found => return found
  | fuel + 1, found => do
    if (← peek?) = some '-' then
      let dash : ClassTree := .literal ⟨(← get).ofNext, '-', false⟩
      stepAndSkip
      if (← peek?).isNone then fail .classUnclosed (.point start)
      leadingDashes start fuel (found.add dash)
    else return found

def openBracket : Reader Bracket := do
  let start ← place
  let goOn : Reader Unit := do
    stepAndSkip
    if (← peek?).isNone then fail .classUnclosed ((← get).since start)
  goOn
  let negated := (← peek?) = some '^'
  if negated then goOn
  let found ← leadingDashes start (← get).limit ⟨(← get).point, []⟩
  let closes := found.items.isEmpty && (← peek?) = some ']'
  let found ← if closes then do
      let sign : ClassTree := .literal ⟨(← get).ofNext, ']', false⟩
      goOn
      pure (found.add sign)
    else pure found
  return { opening := (← get).since start, negated, gathered := found }

/-- Reads a named class, unless what is there is none. -/
def namedClass? : Reader (Option ClassTree) := do
  let before ← get
  let refuse : Reader (Option ClassTree) := do
    set before
    return none
  if !(← take "[:") then refuse
  else
    let negated ← take "^"
    let name ← takeWhile false (· ≠ ':')
    if !(← take ":]") then refuse
    else
      match AsciiClass.ofName? (String.ofList name) with
      | none => refuse
      | some kind => return some (.named ((← get).since before.place) kind negated)

/-- Reads a character or an escape in brackets. -/
def bracketPrimitive : Reader Primitive := do
  match ← peek? with
  | some '\\' => escape
  | some c => do
    let extent := (← get).ofNext
    step
    return .literal ⟨extent, c, false⟩
  | none => fail .classUnclosed (← get).point

def classItem : Primitive → Reader ClassTree
  | .literal l => return .literal l
  | .property e p => return .property e p
  | .shorthand e kind negated => return .shorthand e kind negated
  | p => fail .classEscape p.extent

def rangeEnd : Primitive → Reader Literal
  | .literal l => return l
  | p => fail .classRangeEnd p.extent

/-- Reads a range, or an item that is none. -/
def rangeOrItem (b : Bracket) : Reader ClassTree := do
  let low ← bracketPrimitive
  skip
  match ← peek? with
  | none => fail .classUnclosed b.opening
  | some c =>
    let after := (← get).second?
    if c ≠ '-' || after = some ']' || after = some '-' then classItem low
    else
      stepAndSkip
      if (← peek?).isNone then fail .classUnclosed b.opening
      let high ← bracketPrimitive
      let extent : Extent := ⟨low.extent.first, high.extent.last⟩
      let first ← rangeEnd low
      let last ← rangeEnd high
      if last.char < first.char then fail .classRange extent
      return .range extent first last

def operators : List (String × SetOperator) :=
  [("&&", .intersection), ("--", .difference), ("~~", .symmetricDifference)]

/-- Reads an operator, if one comes next. -/
def operator? : Reader (Option SetOperator) := do
  let rest := (← get).rest
  match operators.find? fun o => o.1.toList.isPrefixOf rest with
  | none => return none
  | some (text, o) => do
    let _ ← take text
    return some o

/-- Reads on in a bracket inside of others, from the nearest out, for some number of items at
most. -/
def bracketItems : Nat → Bracket → List Bracket → Reader Tree
  | 0, b, _ => fail .classUnclosed b.opening
  | fuel + 1, b, outer => do
    skip
    match ← peek? with
    | none => fail .classUnclosed b.opening
    | some '[' => do
      match ← namedClass? with
      | some item => bracketItems fuel (b.add item) outer
      | none => bracketItems fuel (← openBracket) (b :: outer)
    | some ']' => do
      step
      let extent := (← get).since b.opening.first
      match outer with
      | [] => return .bracketed extent b.negated b.tree
      | parent :: further =>
        bracketItems fuel (parent.add (.bracketed extent b.negated b.tree)) further
    | some _ => do
      match ← operator? with
      | some o => bracketItems fuel (b.operate o (← place)) outer
      | none => bracketItems fuel (b.add (← rangeOrItem b)) outer

/-- Reads a class from its opening bracket on. -/
def bracketed : Reader Tree := do
  let b ← openBracket
  bracketItems (← get).limit b []

end Reader

end Almanac.Regular
