import Almanac.Power
/-!
Floating point numbers of 64 bits, as far as data files need them: reading a literal and writing
the fewest digits that read back.

A number is a whole mantissa times a power of two, and all arithmetic is exact. `nearest?` rounds
a fraction to the nearest number, a tie to the even mantissa.
-/

namespace Almanac

/-- A finite number of 64 bits: `mantissa * 2 ^ exponent`, negated when `negative`. -/
structure Binary64 where
  negative : Bool
  mantissa : Nat
  exponent : Int
deriving DecidableEq, Inhabited

namespace Binary64

/-- The least exponent; below it mantissas lose bits. -/
def leastExponent : Int := -1074

/-- The least mantissa of 53 bits. -/
def leastFull : Nat := 4503599627370496

/-- The quotient rounded to the nearest integer, a tie to the even one. -/
def roundQuotient (num den : Nat) : Nat :=
  let q := num / den
  let twice := 2 * (num % den)
  if twice < den ∨ (twice = den ∧ q % 2 = 0) then q else q + 1

/-- The fraction `num / den` in units of `2 ^ exponent`, as a quotient of integers. -/
def inUnits (num den : Nat) (exponent : Int) : Nat × Nat :=
  if exponent ≥ 0 then (num, den * powerOfTwo exponent.toNat)
  else (num * powerOfTwo (-exponent).toNat, den)

/-- The exponent at which the fraction has 53 bits before the point, or the least one. -/
def exponentOf (num den : Nat) : Int :=
  let guess : Int := (Nat.log2 num : Int) - Nat.log2 den - 52
  let (n, d) := inUnits num den guess
  max leastExponent (if n / d < leastFull then guess - 1 else guess)

/-- The number nearest to the fraction `num / den`, or none when it is too great. -/
def nearest? (num den : Nat) : Option (Nat × Int) :=
  if num = 0 then some (0, 0) else
  let e := exponentOf num den
  let (n, d) := inUnits num den e
  let m := roundQuotient n d
  let (m, e) := if m = 2 * leastFull then (leastFull, e + 1) else (m, e)
  if e > 971 then none else some (m, e)

/-- A positive number as a quotient of integers. -/
def fraction (m : Nat) (e : Int) : Nat × Nat :=
  if e ≥ 0 then (m * powerOfTwo e.toNat, 1) else (m, powerOfTwo (-e).toNat)

/-! ## Reading a literal -/

/-- The greatest power of ten that scales a literal in one step. -/
def stepPlaces : Nat := 308

/-- A number times a power of ten that is itself rounded first. -/
def scaleUp? (m : Nat) (e : Int) (places : Nat) : Option (Nat × Int) := do
  let (pm, pe) ← nearest? (powerOfTen places) 1
  let (n, d) := fraction m e
  let (pn, pd) := fraction pm pe
  nearest? (n * pn) (d * pd)

/-- A number divided by a power of ten that is itself rounded first. -/
def scaleDown? (m : Nat) (e : Int) (places : Nat) : Option (Nat × Int) := do
  let (pm, pe) ← nearest? (powerOfTen places) 1
  let (n, d) := fraction m e
  let (pn, pd) := fraction pm pe
  nearest? (n * pd) (d * pn)

/-- The number of a literal `digits * 10 ^ places`: the digits are rounded, then scaled by the
power of ten, in steps of at most 308 places downwards. -/
def ofLiteral? (negative : Bool) (digits : Nat) (places : Int) : Option Binary64 := do
  let (m, e) ← nearest? digits 1
  let (m, e) ←
    if m = 0 then some (0, 0)
    else if places ≥ 0 then
      if places.toNat ≤ stepPlaces then scaleUp? m e places.toNat else none
    else if (-places).toNat ≤ stepPlaces then scaleDown? m e (-places).toNat
    else do
      let (m, e) ← scaleDown? m e stepPlaces
      let rest := (-places).toNat - stepPlaces
      if m = 0 ∨ rest > 2 * stepPlaces then some (0, 0)
      else if rest ≤ stepPlaces then scaleDown? m e rest
      else some (0, 0)
  return ⟨negative, m, e⟩

/-! ## The fewest digits that read back -/

/-- The number of decimal digits before the point of a fraction of at least one. -/
def wholeDigits (num den : Nat) : Nat := (Nat.toDigits 10 (num / den)).length

/-- The power of ten of the leading digit of a positive fraction. -/
def leadingPlace (num den : Nat) : Int :=
  if den ≤ num then (wholeDigits num den : Int) - 1
  else
    let k := wholeDigits den num
    if den ≤ num * powerOfTen (k - 1) then 1 - (k : Int) else -(k : Int)

/-- The fraction in units of `10 ^ place`, as a quotient of integers. -/
def inPlaces (num den : Nat) (place : Int) : Nat × Nat :=
  if place ≥ 0 then (num, den * powerOfTen place.toNat)
  else (num * powerOfTen (-place).toNat, den)

/-- Whether `digits * 10 ^ place` rounds to the number. -/
def readsBack (x : Binary64) (digits : Nat) (place : Int) : Bool :=
  let (n, d) :=
    if place ≥ 0 then (digits * powerOfTen place.toNat, 1) else (digits, powerOfTen (-place).toNat)
  nearest? n d == some (x.mantissa, x.exponent)

/-- A decimal of `count` digits, also when rounding has carried into one digit more. -/
def carried (count digits : Nat) (place : Int) : Nat × Int :=
  if digits = powerOfTen count then (digits / 10, place + 1) else (digits, place)

/-- The decimal of `count` digits nearest to the number, if it reads back. -/
def withDigits? (x : Binary64) (count : Nat) : Option (Nat × Int) :=
  let (num, den) := fraction x.mantissa x.exponent
  let place := leadingPlace num den - ((count : Int) - 1)
  let (n, d) := inPlaces num den place
  let near := roundQuotient n d
  let other := if n / d = near then near + 1 else near - 1
  if x.readsBack near place then some (carried count near place)
  else if x.readsBack other place then some (carried count other place)
  else none

/-- The decimal with the fewest digits that reads back; seventeen digits always do. -/
def shortest (x : Binary64) : Nat × Int :=
  if x.mantissa = 0 then (0, 0)
  else (((List.range 17).map (· + 1)).findSome? x.withDigits?).getD (x.mantissa, x.exponent)

/-- Digits with the point `places` digits from their end, and at least one digit on both sides. -/
def pointed (digits : List Char) (places : Nat) : List Char :=
  let whole := digits.take (digits.length - places)
  let rest := List.replicate (places - digits.length) '0' ++ digits.drop (digits.length - places)
  (if whole = [] then ['0'] else whole) ++ '.' :: (if rest = [] then ['0'] else rest)

/-- Whether a number with `before` digits before its point is written without an exponent. -/
def isPositional (before : Int) : Bool := -5 < before ∧ before ≤ 16

/-- Digits as a number from one up to ten, with the exponent of ten that belongs to it. -/
def scaled (digits : List Char) (exponent : Int) : List Char :=
  let rest := digits.drop 1
  digits.take 1 ++ (if rest = [] then [] else '.' :: rest)
    ++ 'e' :: (if exponent < 0 then '-' else '+') :: Nat.toDigits 10 exponent.natAbs

/-- The written form: the shortest digits, with a point unless an exponent shows where it is. -/
def render (x : Binary64) : String :=
  let (number, place) := x.shortest
  let digits := Nat.toDigits 10 number
  let before := digits.length + place
  String.ofList ((if x.negative then ['-'] else []) ++
    if isPositional before then
      pointed (digits ++ List.replicate place.toNat '0') (-place).toNat
    else scaled digits (before - 1))

end Binary64

end Almanac
