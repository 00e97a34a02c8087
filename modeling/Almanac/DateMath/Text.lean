import Almanac.DateMath.Expression
import Almanac.Timestamp.Canonical
/-!
Date math in text.

An expression is the anchor `NOW`, or a canonical timestamp that ends in `Z`, followed by operations
without separators: `+` or `-`, a number and a unit word, or `/` and a unit word. All letters may be
in either case. Operations are read completely before any of them is applied.
-/

namespace Almanac.DateMath

/-! ## Operations -/

inductive Problem where
  | noSign
  | noNumber (sign : Char)
  | tooLarge (digits : List Char)
  | noUnit
  | unknownUnit (word : List Char)

def Problem.message : Problem → String
  | .noSign => "expected '+', '-' or '/'"
  | .noNumber sign => "expected a number after '" ++ sign.toString ++ "'"
  | .tooLarge digits => "amount '" ++ String.ofList digits ++ "' is too large"
  | .noUnit => "expected a unit such as DAY or HOUR"
  | .unknownUnit word => "unknown unit '" ++ String.ofList word ++ "'"

/-- A mistake in operations: the text that was left where it begins, its bytes at most, and what
is wrong. -/
structure Slip where
  rest : List Char
  width : Nat
  problem : Problem

/-- The span of a slip in the operations of which its rest is the end. -/
def Slip.span (s : Slip) (text : List Char) : Span :=
  let start := Text.byteLength text - Text.byteLength s.rest
  ⟨start, min (start + s.width) (Text.byteLength text)⟩

def Slip.toFault (s : Slip) (text : List Char) : Fault :=
  .malformedMath (String.ofList text) (s.span text) s.problem.message

/-- The unit that a word at the start of `cs` names. -/
def unitOf (cs word : List Char) : Except Slip CalendarUnit :=
  if word = [] then .error ⟨cs, 1, .noUnit⟩
  else match CalendarUnit.ofWord? word with
    | some unit => .ok unit
    | none => .error ⟨cs, Text.byteLength word, .unknownUnit word⟩

/-- The amount that the digits at the start of `cs`, after a sign, stand for. -/
def amountOf (sign : Char) (cs digits : List Char) : Except Slip Int64 :=
  if digits = [] then .error ⟨cs, 1, .noNumber sign⟩
  else match Word.fit? (Text.number digits) with
    | some n => .ok (if sign = '-' then -n else n)
    | none => .error ⟨cs, Text.byteLength digits, .tooLarge digits⟩

def readUnit (cs : List Char) : Except Slip (CalendarUnit × List Char) := do
  return (← unitOf cs (cs.takeWhile Char.isAlpha), cs.dropWhile Char.isAlpha)

/-- Reads the number after a sign, and what follows it. -/
def readAmount (sign : Char) (cs : List Char) : Except Slip (Int64 × List Char) := do
  return (← amountOf sign cs (cs.takeWhile Char.isDigit), cs.dropWhile Char.isDigit)

def readRound (cs : List Char) : Except Slip (Operation × List Char) := do
  let unit ← readUnit cs
  return (.round unit.1, unit.2)

/-- Reads the amount and unit of an offset, and what follows them. -/
def readOffset (sign : Char) (cs : List Char) : Except Slip (Operation × List Char) := do
  let amount ← readAmount sign cs
  let unit ← readUnit amount.2
  return (.offset unit.1 amount.1, unit.2)

def readOperation : List Char → Except Slip (Operation × List Char)
  | '/' :: cs => readRound cs
  | '+' :: cs => readOffset '+' cs
  | '-' :: cs => readOffset '-' cs
  | cs => .error ⟨cs, 1, .noSign⟩

theorem length_le_of_readUnit {cs : List Char} {r : CalendarUnit × List Char}
    (h : readUnit cs = .ok r) : r.2.length ≤ cs.length := by
  unfold readUnit at h
  cases hu : unitOf cs (cs.takeWhile Char.isAlpha) with
  | error _ => rw [hu] at h; cases h
  | ok unit => rw [hu] at h; cases h; exact (List.dropWhile_sublist _).length_le

theorem length_le_of_readAmount {sign : Char} {cs : List Char} {r : Int64 × List Char}
    (h : readAmount sign cs = .ok r) : r.2.length ≤ cs.length := by
  unfold readAmount at h
  cases ha : amountOf sign cs (cs.takeWhile Char.isDigit) with
  | error _ => rw [ha] at h; cases h
  | ok amount => rw [ha] at h; cases h; exact (List.dropWhile_sublist _).length_le

theorem length_le_of_readRound {cs : List Char} {r : Operation × List Char}
    (h : readRound cs = .ok r) : r.2.length ≤ cs.length := by
  unfold readRound at h
  cases hu : readUnit cs with
  | error _ => rw [hu] at h; cases h
  | ok unit => rw [hu] at h; cases h; exact length_le_of_readUnit hu

theorem length_le_of_readOffset {sign : Char} {cs : List Char} {r : Operation × List Char}
    (h : readOffset sign cs = .ok r) : r.2.length ≤ cs.length := by
  unfold readOffset at h
  cases ha : readAmount sign cs with
  | error _ => rw [ha] at h; cases h
  | ok amount =>
    rw [ha] at h
    change (readUnit amount.2 >>= _) = _ at h
    cases hu : readUnit amount.2 with
    | error _ => rw [hu] at h; cases h
    | ok unit =>
      rw [hu] at h; cases h
      exact Nat.le_trans (length_le_of_readUnit hu) (length_le_of_readAmount ha)

theorem length_lt_of_readOperation {cs : List Char} {r : Operation × List Char}
    (h : readOperation cs = .ok r) : r.2.length < cs.length := by
  unfold readOperation at h
  split at h
  · exact Nat.lt_succ_of_le (length_le_of_readRound h)
  · exact Nat.lt_succ_of_le (length_le_of_readOffset h)
  · exact Nat.lt_succ_of_le (length_le_of_readOffset h)
  · cases h

/-- Reads operations up to the end of a text. -/
def scanOperations (cs : List Char) : Except Slip (List Operation) :=
  if cs = [] then .ok []
  else match h : readOperation cs with
    | .error slip => .error slip
    | .ok r =>
      have := length_lt_of_readOperation h
      (scanOperations r.2).map (r.1 :: ·)
termination_by cs.length

/-- Reads operations; slips become faults of the text. -/
def readOperations (text : List Char) : Except Fault (List Operation) :=
  (scanOperations text).mapError fun slip => slip.toFault text

/-! ## Expressions -/

def nowWord : List Char := ['N', 'O', 'W']

/-- An expression as it was read, with the precision of its anchor. -/
structure Parsed where
  expression : Expression
  /-- The finest unit that a literal anchor spells out; the millisecond for `NOW`. -/
  anchorPrecision : CalendarUnit
deriving DecidableEq

/-- The text up to and with the first `Z`, and the text after it; none when there is no `Z` or it
comes first. -/
def splitAtZone? (cs : List Char) : Option (List Char × List Char) :=
  match cs.span (· ≠ 'Z') with
  | ([], _) | (_, []) => none
  | (before, z :: rest) => some (before ++ [z], rest)

/-- Reads the operations in `rest`, which ends the text `whole`. -/
def readSuffix (whole rest : List Char) : Except Fault (List Operation) :=
  (readOperations rest).mapError
    (Fault.within (String.ofList whole) (Text.byteLength whole - Text.byteLength rest))

/-- Reads date math. A text that neither begins with `NOW` nor has a `Z` after its first character
is none. -/
def read (text : List Char) : Except Fault (Option Parsed) := do
  let letters := Text.upper text
  match Text.after? nowWord letters with
  | some rest => return some ⟨⟨.now, ← readSuffix text rest⟩, .millisecond⟩
  | none =>
    match splitAtZone? letters with
    | none => return none
    | some (stamp, rest) =>
      let anchor ← (Timestamp.readCanonical stamp).mapError (Fault.within (String.ofList text) 0)
      return some ⟨⟨.literal anchor.instant, ← readSuffix text rest⟩, anchor.precision⟩

end Almanac.DateMath
