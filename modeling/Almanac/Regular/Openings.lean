import Almanac.Regular.Expression
/-!
The texts that matches of an expression begin with, as far as they are few and short.

Where these are the matches themselves, an expression is a choice from literals, which are looked
for without a program.
-/

namespace Almanac.Regular

/-- The bytes that a match begins with. -/
structure Opening where
  bytes : List UInt8
  /-- Whether they are the whole match. -/
  whole : Bool
deriving DecidableEq

/-- The openings of the matches of an expression, the preferred ones first; `none` if they are too
many to be told. -/
abbrev Openings := Option (List Opening)

namespace Openings

/-! ## Limits -/

/-- The most characters of a set that are told apart. -/
def mostOfSet : Nat := 10

/-- The most times that a repetition is followed. -/
def mostTimes : Nat := 10

def mostBytes : Nat := 100

def mostOpenings : Nat := 250

/-! ## Lists of openings -/

/-- The only opening is the empty match. -/
def nothing : Openings := some [⟨[], true⟩]

/-- Drops an opening that has the same bytes as the next one; if they differ otherwise, neither is
a whole match. -/
def dedup : List Opening → List Opening
  | [] => []
  | o :: os =>
    match dedup os with
    | [] => [o]
    | p :: ps =>
      if o.bytes = p.bytes then ⟨o.bytes, o.whole && p.whole⟩ :: ps else o :: p :: ps

def cutOne (n : Nat) (o : Opening) : Opening :=
  if o.bytes.length ≤ n then o else ⟨o.bytes.take n, false⟩

def cut (n : Nat) (os : List Opening) : List Opening := os.map (cutOne n)

/-- Openings none of which is a whole match. -/
def partly (os : Openings) : Openings := os.map fun os => os.map fun o => { o with whole := false }

/-- Whether no opening can be continued. -/
def isClosed (os : Openings) : Bool := os.all fun os => os.all (!·.whole)

/-- Whether all openings are whole matches. -/
def areWhole (os : List Opening) : Bool := os.all (·.whole)

/-- The openings of two expressions one after the other. -/
def cross : Openings → Openings → Openings
  | none, _ => none
  | some as, some bs =>
    if as.length * bs.length ≤ mostOpenings then
      some (cut mostBytes (dedup (as.flatMap fun a =>
        if a.whole then bs.map fun b => ⟨a.bytes ++ b.bytes, b.whole⟩ else [a])))
    else unlimited as
  | some as, none => unlimited as
where
  /-- The openings of an expression after which anything may follow. -/
  unlimited (as : List Opening) : Openings :=
    if as.any (·.bytes.isEmpty) then none else (partly (some as)).map (cut mostBytes)

/-- The openings of a choice between two expressions, the first of which is preferred. -/
def union : Openings → Openings → Openings
  | some as, some bs =>
    if as.length + bs.length ≤ mostOpenings then some (dedup (as ++ bs))
    else
      let short (os : List Opening) := dedup (cut 4 os)
      if (short as).length + (short bs).length ≤ mostOpenings then
        some (dedup (short as ++ short bs))
      else none
  | _, _ => none

/-- The openings of a repetition that is followed for some number of times, after others. -/
def power (sub : Openings) : Nat → Openings → Openings
  | 0, os => os
  | n + 1, os => if isClosed os then os else power sub n (cross os sub)

def ofCharset (s : Charset) : Openings :=
  let count := s.foldl (fun n r => n + (r.2 + 1 - r.1)) 0
  if mostOfSet < count then none
  else
    some (s.flatMap fun r => (List.range (r.2 + 1 - r.1)).map fun n =>
      ⟨String.utf8EncodeChar (Char.ofNat (r.1 + n)), true⟩)

/-- The openings of a repetition of what has some openings. -/
def repetition (sub : Openings) (least : Nat) (most : Option Nat) (eager : Bool) : Openings :=
  if least = 0 then
    let sub := if most = some 1 then sub else partly sub
    if eager then union sub nothing else union nothing sub
  else
    let followed := power sub (min least mostTimes) nothing
    if most = some least && least ≤ mostTimes then followed else partly followed

mutual

def ofExpression : Expression → Openings
  | .empty | .look _ => nothing
  | .literal cs => some (cut mostBytes [⟨cs.flatMap String.utf8EncodeChar, true⟩])
  | .set _ s => ofCharset s
  | .captured _ e => ofExpression e
  | .repeated least most eager e => repetition (ofExpression e) least most eager
  | .sequence es => ofSequence nothing es
  | .choice es => ofChoice (some []) es

/-- The openings of some expressions one after the other, after others. -/
def ofSequence (os : Openings) : List Expression → Openings
  | [] => os
  | e :: es => if isClosed os then os else ofSequence (cross os (ofExpression e)) es

/-- The openings of one of some expressions, or others that are preferred. -/
def ofChoice (os : Openings) : List Expression → Openings
  | [] => os
  | e :: es => if os.isNone then none else ofChoice (union os (ofExpression e)) es

end

/-! ## Openings to look for -/

/-- The openings that do not continue one before them, which would be preferred. -/
def minimal (os : List Opening) : List Opening :=
  (os.foldl (fun kept o =>
    if kept.any fun p => p.bytes.isPrefixOf o.bytes then kept else o :: kept) []).reverse

/-- The length of what two lists of bytes begin with. -/
def commonLength : List UInt8 → List UInt8 → Nat
  | a :: as, b :: bs => if a = b then commonLength as bs + 1 else 0
  | _, _ => 0

def commonBytes : List Opening → List UInt8
  | [] => []
  | o :: os => os.foldl (fun bytes p => bytes.take (commonLength bytes p.bytes)) o.bytes

/-- The ASCII characters that are frequent in texts. -/
def frequent : List Char := "\n\r (),-./0129:_abcdefghilmnoprstuvxy|".toList

/-- Whether a character that begins with a byte is frequent; those outside ASCII are. -/
def isFrequent (b : UInt8) : Bool := 0x80 ≤ b || frequent.any fun c => c.toNat = b.toNat

/-- Shortens openings as long as there are many of them; each step is a number of bytes and the
number of openings that is not many. -/
def shorten (os : List Opening) : List (Nat × Nat) → List Opening
  | [] => os
  | (bytes, few) :: steps => if os.length ≤ few then os else shorten (minimal (cut bytes os)) steps

def steps : List (Nat × Nat) := [(5, 10), (4, 10), (3, 64), (2, 64), (1, 10)]

/-- Openings that are whole matches, or shorter ones where these are better to look for: neither too
short nor too many. -/
def shortened (os : List Opening) : List Opening :=
  let short := shorten os steps
  if 64 < short.length || short.any (·.bytes.length ≤ 2) then os else short

/-- The openings to look for, if there are any: what they have in common if that is a good
start. -/
def toFind (os : List Opening) : List Opening :=
  if os.any (·.bytes.isEmpty) then []
  else
    let least := minimal os
    let common := commonBytes least
    let isRare := common.head?.any (!isFrequent ·)
    if 1 < os.length && common.length ≤ 3 && isRare then dedup (cut 1 least)
    else
      let isFast := areWhole least && least.length ≤ 16
      let usesCommon := 4 < common.length || (1 < common.length && !isFast)
      let found := if usesCommon then dedup (cut common.length least) else least
      if areWhole found then shortened found else found

end Openings

/-! ## Choices from literals -/

namespace Expression

mutual

/-- Whether an expression has neither conditions nor groups that remember. -/
def isPlain : Expression → Bool
  | .empty | .literal _ | .set _ _ => true
  | .look _ | .captured _ _ => false
  | .repeated _ _ _ e => e.isPlain
  | .sequence es | .choice es => arePlain es

def arePlain : List Expression → Bool
  | [] => true
  | e :: es => e.isPlain && arePlain es

end

/-- Whether an expression is a choice from very many literals. -/
def hasManyLiterals : Expression → Bool
  | .choice es => 3000 ≤ es.length && es.all (·.literal?.isSome)
  | _ => false

/-- Whether an expression is a choice from literals that are looked for without a program: few and
short ones, or very many. -/
def isLiteralChoice (e : Expression) : Bool :=
  e.isPlain &&
    (e.hasManyLiterals ||
      match Openings.ofExpression e with
      | none => false
      | some os =>
        let os := Openings.toFind (Openings.dedup os)
        !os.isEmpty && Openings.areWhole os)

example : (Expression.repeated 3 (some 3) true (.literal ['a'])).isLiteralChoice = true := by
  decide +kernel

example : (Expression.repeated 11 (some 11) true (.literal ['a'])).isLiteralChoice = false := by
  decide +kernel

end Expression

end Almanac.Regular
