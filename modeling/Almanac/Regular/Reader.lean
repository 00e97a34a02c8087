import Almanac.Regular.Brackets
import Almanac.Text.Alphabetic
import Almanac.Text.Numeric
/-!
Reading regular expressions: groups with names and flags, repetitions and alternatives.

The groups that are open are kept in a list from the inside out, each with what was read before it.
-/

namespace Almanac.Regular

/-! ## What has been read so far -/

/-- What has been read of an expression: whole branches, and the items of the last one, of both the
last first. -/
structure Branches where
  /-- Where the first branch begins. -/
  start : Place
  whole : List Tree := []
  /-- Where the last branch begins. -/
  first : Place
  items : List Tree := []

namespace Branches

/-- Nothing, from a place on. -/
def fresh (p : Place) : Branches := { start := p, first := p }

def add (b : Branches) (t : Tree) : Branches := { b with items := t :: b.items }

def branch (b : Branches) (last : Place) : Tree :=
  match b.items with
  | [] => .empty ⟨b.first, last⟩
  | [t] => t
  | ts => .concat ⟨b.first, last⟩ ts.reverse

def tree (b : Branches) (last : Place) : Tree :=
  if b.whole.isEmpty then b.branch last
  else .alternation ⟨b.start, last⟩ (b.branch last :: b.whole).reverse

/-- A new branch from a place on, where the last one ends at another. -/
def divide (b : Branches) (last next : Place) : Branches :=
  { b with whole := b.branch last :: b.whole, first := next, items := [] }

end Branches

structure OpenGroup where
  /-- What was read before it. -/
  before : Branches
  /-- Its opening parenthesis. -/
  opening : Extent
  captures : Bool
  flags : FlagList
  /-- Whether blanks are skipped after it. -/
  skips : Bool

namespace Reader

/-! ## Groups -/

/-- Whether a character may stand in the name of a group, as the first or a later one. -/
def isNameCharacter (isFirst : Bool) (c : Char) : Bool :=
  c = '_' || Text.isAlphabetic c
    || (!isFirst && (c = '.' || c = '[' || c = ']' || Text.isNumeric c))

/-- Reads the characters of a name up to the sign that closes it. -/
def nameCharacters (isFirst : Bool) : Nat → Reader (List Char)
  | 0 => return []
  | fuel + 1 => do
    match ← peek? with
    | none => fail .nameUnfinished (← get).point
    | some '>' => return []
    | some c =>
      if !isNameCharacter isFirst c then fail .nameCharacter (← get).ofNext
      step
      return c :: (← nameCharacters false fuel)

/-- Reads the name of a group, which no group before may have. -/
def groupName : Reader Unit := do
  let first ← place
  let name ← nameCharacters true (← get).limit
  let extent := (← get).since first
  step
  if name = [] then fail .nameEmpty (.point first)
  let k ← get
  match k.names.find? fun n => n.1 = name with
  | some (_, earlier) => throw { reason := .nameTwice, extent, other := some earlier }
  | none => set { k with names := (name, extent) :: k.names }

def flagLetters : List Char := ['i', 'm', 's', 'U', 'u', 'R', 'x']

/-- Adds a flag or the dash between flags, neither of which may come twice. -/
def addFlag (items : FlagList) (c : Char) (extent : Extent) : Reader FlagList := do
  if c ≠ '-' && !flagLetters.contains c then fail .flagUnknown extent
  match items.find? fun f => f.1 = c with
  | some (_, earlier) =>
    let reason : Reason := if c = '-' then .negationTwice else .flagTwice
    throw { reason, extent, other := some earlier }
  | none => return items ++ [(c, extent)]

/-- Reads flags up to the sign after them. -/
def flagItems : Nat → FlagList → Reader FlagList
  | 0, items => return items
  | fuel + 1, items => do
    match ← peek? with
    | none => fail .flagUnfinished (← get).point
    | some c =>
      if c = ':' || c = ')' then return items
      else
        let items ← addFlag items c (← get).ofNext
        step
        flagItems fuel items

/-- Reads flags, of which the last is no dash. -/
def flagList : Reader FlagList := do
  let items ← flagItems (← get).limit []
  match items.getLast? with
  | some ('-', extent) => fail .negationDangling extent
  | _ => return items

/-- What an opening parenthesis begins. -/
inductive Opened where
  /-- Flags for what follows. -/
  | flags (extent : Extent) (items : FlagList)
  /-- A group with flags of its own. -/
  | group (opening : Extent) (captures : Bool) (items : FlagList)

def lookArounds : List String := ["?=", "?!", "?<=", "?<!"]

/-- Reads the beginning of a group that looks around, if one comes next. -/
def lookAround : List String → Reader Bool
  | [] => return false
  | text :: texts => do if ← take text then return true else lookAround texts

/-- Reads the flags of a group, or flags for what follows. -/
def flagged (opening : Extent) (inner : Extent) : Reader Opened := do
  if (← peek?).isNone then fail .groupUnclosed opening
  let items ← flagList
  let closes := (← peek?) = some ')'
  step
  if !closes then return .group opening false items
  else if items.isEmpty then fail .nothingToRepeat inner
  else return .flags ⟨opening.first, ← place⟩ items

def openGroup : Reader Opened := do
  let opening := (← get).ofNext
  step
  skip
  if ← lookAround lookArounds then fail .lookAround ⟨opening.first, ← place⟩
  let inner := (← get).point
  let named ← (do if ← take "?P<" then return true else take "?<")
  if named then
    groupName
    return .group opening true []
  else if ← take "?" then flagged opening inner
  else return .group opening true []

/-! ## Repetitions -/

/-- What the sign of a repetition repeats: the last item, unless it is none or only sets flags. -/
def repeated (b : Branches) : Reader (Branches × Tree) := do
  match b.items with
  | [] | .flags _ _ :: _ | .empty _ :: _ => fail .nothingToRepeat (← get).point
  | t :: items => return ({ b with items }, t)

/-- Reads a question mark, if one comes next, after which a repetition is not eager. -/
def eagerness : Reader Bool := return !(← take "?")

/-- The repetition of an item, which ends at the cursor. -/
def repetition (b : Branches) (t : Tree) (least : Nat) (most : Option Nat) (eager : Bool) :
    Reader Branches :=
  return b.add (.repetition ((← get).since t.extent.first) t least most eager)

def signedRepetition (b : Branches) (least : Nat) (most : Option Nat) : Reader Branches := do
  let (before, t) ← repeated b
  step
  let eager ← eagerness
  repetition before t least most eager

/-- Reads a decimal number, which may have blanks around it. The fault is not raised at once,
because another may come first. -/
def count : Reader (Except Fault Nat) := do
  let _ ← takeWhile false Text.isBlank
  let first ← place
  let digits ← takeWhile true Char.isDigit
  let extent := (← get).since first
  let _ ← takeWhile true Text.isBlank
  let value := digits.foldl (fun n c => n * 10 + (c.toNat - 48)) 0
  if digits = [] then return .error { reason := .countEmpty, extent }
  else if UInt32.size ≤ value then return .error { reason := .decimalTooBig, extent }
  else return .ok value

/-- Reads the bounds between braces, which close the repetition. -/
def bounds (start : Place) : Reader (Nat × Option Nat) := do
  let unclosed {α : Type} : Reader α := do fail .countUnclosed ((← get).since start)
  stepAndSkip
  if (← peek?).isNone then unclosed
  let least ← count
  match ← peek? with
  | none => unclosed
  | some ',' => do
    stepAndSkip
    match ← peek? with
    | none => unclosed
    | some '\x7d' => return (← least, none)
    | some _ => do
      let low ← least
      let high ← count
      return (low, some (← high))
  | some _ => do
    let n ← least
    return (n, some n)

/-- Reads a repetition with bounds between braces. -/
def countedRepetition (b : Branches) : Reader Branches := do
  let start ← place
  let (before, t) ← repeated b
  let (least, most) ← bounds start
  if (← peek?) ≠ some '\x7d' then fail .countUnclosed ((← get).since start)
  stepAndSkip
  let eager ← eagerness
  if most.any (· < least) then fail .countRange ((← get).since start)
  repetition before t least most eager

/-! ## Expressions -/

/-- Begins a group, or sets flags for what follows. -/
def beginGroup (b : Branches) (groups : List OpenGroup) : Reader (Branches × List OpenGroup) := do
  match ← openGroup with
  | .flags extent items => do
    modify fun k => { k with skips := (flagState? 'x' items).getD k.skips }
    return (b.add (.flags extent items), groups)
  | .group opening captures flags => do
    let k ← get
    let group : OpenGroup := { before := b, opening, captures, flags, skips := k.skips }
    set { k with skips := (flagState? 'x' flags).getD k.skips }
    return (.fresh k.place, group :: groups)

def endGroup (b : Branches) : List OpenGroup → Reader (Branches × List OpenGroup)
  | [] => do fail .groupUnopened (← get).ofNext
  | g :: groups => do
    let inner := b.tree (← place)
    modify fun k => { k with skips := g.skips }
    step
    let extent := (← get).since g.opening.first
    return (g.before.add (.group extent g.captures g.flags inner), groups)

def part (c : Char) (b : Branches) (groups : List OpenGroup) :
    Reader (Branches × List OpenGroup) := do
  match c with
  | '(' => beginGroup b groups
  | ')' => endGroup b groups
  | '|' => do
    let last ← place
    step
    return (b.divide last (← place), groups)
  | '[' => return (b.add (← bracketed), groups)
  | '?' => return (← signedRepetition b 0 (some 1), groups)
  | '*' => return (← signedRepetition b 0 none, groups)
  | '+' => return (← signedRepetition b 1 none, groups)
  | '\x7b' => return (← countedRepetition b, groups)
  | _ => return (b.add (.primitive (← primitive c)), groups)

/-- Reads parts up to the end of the text, for some number of parts at most. -/
def parts : Nat → Branches → List OpenGroup → Reader Tree
  | 0, b, _ => return b.tree (← place)
  | fuel + 1, b, groups => do
    skip
    match ← peek? with
    | some c => do
      let (b, groups) ← part c b groups
      parts fuel b groups
    | none =>
      match groups with
      | g :: _ => fail .groupUnclosed g.opening
      | [] => return b.tree (← place)

end Reader

def Tree.read (text : List Char) : Except Fault Tree := do
  let limit := text.length + 1
  let (tree, _) ← (Reader.parts limit (.fresh {}) []).run { rest := text, limit }
  match tree.tooDeep? 0 with
  | some extent => throw { reason := .nestedTooDeep, extent }
  | none => return tree

end Almanac.Regular
