import Almanac.Regular.Expression
/-!
The meaning of regular expressions as they are written: flags are applied, and what needs knowledge
of characters outside ASCII is refused.

Expressions are about characters unless the flag `u` is off, and then about ASCII characters only,
so that a class that holds others is refused. There are no tables of properties, of cases or of
words outside ASCII: where these would be needed, an expression is refused too, or is undecided.
-/

namespace Almanac.Regular

/-- The flags that make a difference to the meaning of an expression. -/
structure Flags where
  /-- Letters match in both cases. -/
  anyCase : Bool := false
  /-- The conditions on rows hold inside the text too. -/
  manyRows : Bool := false
  /-- The dot matches line feeds. -/
  dotMatchesAll : Bool := false
  /-- Characters outside ASCII are known. -/
  unicode : Bool := true
  /-- Carriage returns end rows. -/
  returns : Bool := false
  /-- Repetitions are eager if a question mark follows and not otherwise. -/
  swapsEagerness : Bool := false

/-- The flags after those of a list are set. -/
def Flags.apply (f : Flags) (items : FlagList) : Flags :=
  let state (c : Char) (old : Bool) := (flagState? c items).getD old
  { anyCase := state 'i' f.anyCase
    manyRows := state 'm' f.manyRows
    dotMatchesAll := state 's' f.dotMatchesAll
    unicode := state 'u' f.unicode
    returns := state 'R' f.returns
    swapsEagerness := state 'U' f.swapsEagerness }

namespace Flags

/-! ## Classes -/

/-- Refuses an expression for a reason that a part of the text gives. -/
def refuse {α : Type} (reason : Reason) (extent : Extent) : Except Fault α :=
  .error { reason, extent }

/-- A set of named characters with its other cases, as far as they are known. -/
def cased (f : Flags) (extent : Extent) (s : Charset) : Except Fault Charset :=
  if f.anyCase then
    if f.unicode then refuse .caseUnavailable extent else .ok (.anyCase s)
  else .ok s

/-- A set or its complement, which holds characters outside ASCII. -/
def negated (f : Flags) (extent : Extent) (isNegated : Bool) (s : Charset) :
    Except Fault Charset :=
  if isNegated && !f.unicode then refuse .notUtf8 extent else .ok (.negatedIf isNegated s)

/-- The characters of a class that has a letter of its own. -/
def shorthand (f : Flags) (extent : Extent) (kind : AsciiClass) (isNegated : Bool) :
    Except Fault Charset :=
  if f.unicode then refuse .shorthandUnavailable extent
  else f.negated extent isNegated kind.characters

/-- The ASCII letters of a name in lower case, without `is` at its start and without the signs that
make no difference. -/
def looseName (name : List Char) : List Char :=
  let bare := if (name.take 2).map Char.toLower = ['i', 's'] then name.drop 2 else name
  (bare.map Char.toLower).filter fun c => c.toNat < 0x80 && c ≠ ' ' && c ≠ '_' && c ≠ '-'

/-- Why a property is refused. Three abbreviations are those of values and not of properties. -/
def refuseProperty {α : Type} (f : Flags) (extent : Extent) (p : Property) : Except Fault α :=
  let name := String.ofList (looseName p.name.toList)
  let isValue := p.value.isNone && ["cf", "sc", "lc"].contains name
  if !f.unicode then refuse .needsUnicode extent
  else if isValue then refuse .propertyValueUnknown extent
  else refuse .propertyUnknown extent

/-- A character that stands for itself; a byte stands for a character in ASCII only. -/
def literal (f : Flags) (l : Literal) : Except Fault Char :=
  if !f.unicode && l.asByte && 0x80 ≤ l.char.toNat then refuse .notUtf8 l.extent else .ok l.char

def classLiteral (f : Flags) (l : Literal) : Except Fault Char := do
  let c ← f.literal l
  if !f.unicode && 0x80 ≤ c.toNat then refuse .needsUnicode l.extent else return c

end Flags

/-- Whether an item of a class names characters. -/
def ClassTree.isNamed : ClassTree → Bool
  | .literal _ | .range _ _ _ | .named _ _ _ => true
  | _ => false

/-- Whether a class names characters outside brackets of its own and operators. -/
def ClassTree.names : ClassTree → Bool
  | .union _ items => items.any isNamed
  | t => t.isNamed

/-- An operand of an operator with its other cases, as far as they are known. -/
def operand (f : Flags) (t : ClassTree) (s : Charset) : Except Fault Charset :=
  if f.unicode && !t.names then .ok s else f.cased t.extent s

mutual

def ClassTree.meaning (f : Flags) : ClassTree → Except Fault Charset
  | .empty _ => .ok .empty
  | .literal l => return .one (← f.classLiteral l)
  | .range _ low high => return .between (← f.classLiteral low) (← f.classLiteral high)
  | .named e kind isNegated => do f.negated e isNegated (← f.cased e kind.characters)
  | .property e p => f.refuseProperty e p
  | .shorthand e kind isNegated => f.shorthand e kind isNegated
  | .bracketed e isNegated inner => do
    let s ← inner.meaning f
    let t ← if f.unicode && !inner.names then pure s else f.cased e s
    f.negated e isNegated t
  | .union _ items => ClassTree.unionMeaning f [] items
  | .binary _ operator left right => do
    let a ← left.meaning f
    let b ← right.meaning f
    let b ← operand f right b
    let a ← operand f left a
    return .combine operator a b

def ClassTree.unionMeaning (f : Flags) (sets : List Charset) :
    List ClassTree → Except Fault Charset
  | [] => .ok (.ofRanges sets.flatten)
  | t :: ts => do ClassTree.unionMeaning f ((← t.meaning f) :: sets) ts

end

namespace Flags

def bracketed (f : Flags) (e : Extent) (isNegated : Bool) (inner : ClassTree) :
    Except Fault Charset :=
  (ClassTree.bracketed e isNegated inner).meaning f

/-! ## Expressions -/

/-- The characters that the dot matches. -/
def dot (f : Flags) (extent : Extent) : Except Fault Charset :=
  if !f.unicode then refuse .notUtf8 extent
  else if f.dotMatchesAll then .ok .full
  else if f.returns then .ok (.complement [(10, 10), (13, 13)])
  else .ok (.complement (.one '\n'))

/-- A condition on words, which is known for ASCII characters only. -/
def onWords (f : Flags) (w : WordLook) : Look := if f.unicode then .anyWord w else .word w

def assertion (f : Flags) : Assertion → Look
  | .textStart => .textStart
  | .textEnd => .textEnd
  | .lineStart => if !f.manyRows then .textStart else if f.returns then .lineStart else .rowStart
  | .lineEnd => if !f.manyRows then .textEnd else if f.returns then .lineEnd else .rowEnd
  | .boundary => f.onWords .boundary
  | .noBoundary => f.onWords .noBoundary
  | .wordStart => f.onWords .start
  | .wordEnd => f.onWords .finish
  | .wordStartHalf => f.onWords .startHalf
  | .wordEndHalf => f.onWords .finishHalf

/-- One character of a set, which is of bytes unless characters outside ASCII are known. -/
def ofSet (f : Flags) (s : Charset) : Expression := .ofSet (!f.unicode) s

def primitive (f : Flags) : Primitive → Except Fault Expression
  | .literal l => return f.ofSet (← f.cased l.extent (.one (← f.literal l)))
  | .dot e => return f.ofSet (← f.dot e)
  | .assertion _ a => return .look (f.assertion a)
  | .property e p => f.refuseProperty e p
  | .shorthand e kind isNegated => return f.ofSet (← f.shorthand e kind isNegated)

end Flags

mutual

/-- The meaning of an expression under flags, and the flags after it. -/
def Tree.meaning (f : Flags) : Tree → Except Fault (Expression × Flags)
  | .empty _ => .ok (.empty, f)
  | .flags _ items => .ok (.empty, f.apply items)
  | .primitive p => return (← f.primitive p, f)
  | .bracketed e isNegated inner => return (f.ofSet (← f.bracketed e isNegated inner), f)
  | .repetition _ sub least most eager => do
    let (e, g) ← sub.meaning f
    return (e.repetition least most (eager != g.swapsEagerness), g)
  | .group extent captures items sub => do
    let (e, _) ← sub.meaning (f.apply items)
    return (if captures then .captured extent.first e else e, f)
  | .alternation _ branches => do
    let (es, g) ← Tree.meanings f [] branches
    return (.choiceOf es, g)
  | .concat _ items => do
    let (es, g) ← Tree.meanings f [] items
    return (.sequenceOf es, g)

/-- The meanings of some expressions, each under the flags after the one before it, after others
that are given with the last first. -/
def Tree.meanings (f : Flags) (done : List Expression) :
    List Tree → Except Fault (List Expression × Flags)
  | [] => .ok (done.reverse, f)
  | t :: ts => do
    let (e, g) ← t.meaning f
    Tree.meanings g (e :: done) ts

end

end Almanac.Regular
