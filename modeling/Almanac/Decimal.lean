import Almanac.Power
/-!
Decimal numbers with a mantissa of 96 bits and at most 28 places after the point.

A literal with more places than fit is rounded half up at its first place that does not, and one
whose whole part does not fit is refused. A product that does not fit loses places, rounded half to
even, and is refused when it has none left to lose.
-/

namespace Almanac

/-- The number `mantissa / 10 ^ scale`. -/
structure Decimal where
  mantissa : Nat
  scale : Nat
deriving DecidableEq

namespace Decimal

/-- The least mantissa of more than 96 bits. -/
def limit : Nat := powerOfTwo 96

/-- The greatest number of places after the point. -/
def greatestScale : Nat := 28

/-! ## Reading a literal -/

def digit (c : Char) : Nat := c.toNat - 48

/-- Rounds half up by the first digit that is left out. -/
def roundBy? (mantissa scale : Nat) (c : Char) : Option Decimal :=
  if digit c < 5 then some ⟨mantissa, scale⟩
  else if mantissa + 1 < limit then some ⟨mantissa + 1, scale⟩
  else if scale = 0 then none
  else some ⟨(mantissa + 5) / 10, scale - 1⟩

/-- Whether a digit can stand in the next place. -/
def hasPlace (mantissa scale : Nat) (c : Char) : Bool :=
  scale < greatestScale && mantissa * 10 + digit c < limit

/-- Reads on after the point, where only digits may stand. -/
def readPlaces? (any : Bool) (mantissa scale : Nat) : List Char → Option Decimal
  | [] => if any then some ⟨mantissa, scale⟩ else none
  | c :: cs =>
    if !c.isDigit then none
    else if hasPlace mantissa scale c then
      readPlaces? true (mantissa * 10 + digit c) (scale + 1) cs
    else if cs.all Char.isDigit then roundBy? mantissa scale c
    else none

/-- Reads on before the point. -/
def readWhole? (any : Bool) (mantissa : Nat) : List Char → Option Decimal
  | [] => if any then some ⟨mantissa, 0⟩ else none
  | c :: cs =>
    if c = '.' then readPlaces? any mantissa 0 cs
    else if c.isDigit ∧ mantissa * 10 + digit c < limit then
      readWhole? true (mantissa * 10 + digit c) cs
    else none

/-- Reads a literal of digits, with at most one point among them. -/
def read? (cs : List Char) : Option Decimal := readWhole? false 0 cs

/-! ## Arithmetic -/

/-- The quotient rounded to the nearest integer, a half to the even one. -/
def roundHalfEven (n d : Nat) : Nat :=
  let twice := 2 * (n % d)
  if twice < d ∨ (twice = d ∧ n / d % 2 = 0) then n / d else n / d + 1

/-- The least number of places that a mantissa must lose to come near 96 bits. -/
def excessPlaces (mantissa : Nat) : Nat := ((mantissa.log2 + 1 - 97) * 77 / 256) + 1

/-- A mantissa that is too great with some of its places taken away. -/
def dropPlaces? (mantissa scale places : Nat) : Option Decimal :=
  if scale < places then none
  else
    let rounded := roundHalfEven mantissa (powerOfTen places)
    if rounded < limit then some ⟨rounded, scale - places⟩
    else if scale = places then none
    else some ⟨roundHalfEven rounded 10, scale - places - 1⟩

/-- The number with a mantissa of any size, brought to 96 bits. -/
def fit? (mantissa scale : Nat) : Option Decimal :=
  if mantissa < limit then some ⟨mantissa, scale⟩
  else
    let places := excessPlaces mantissa
    if mantissa / powerOfTen places < limit then dropPlaces? mantissa scale places
    else dropPlaces? mantissa scale (places + 1)

/-- The product with an integer. -/
def times? (d : Decimal) (n : Nat) : Option Decimal := fit? (d.mantissa * n) d.scale

def trunc (d : Decimal) : Nat := d.mantissa / powerOfTen d.scale

example : read? "1.5".toList = some ⟨15, 1⟩ := by decide
example : read? ".".toList = none := by decide
example : (times? ⟨15, 1⟩ 3600000).map trunc = some 5400000 := by decide

end Decimal

end Almanac
