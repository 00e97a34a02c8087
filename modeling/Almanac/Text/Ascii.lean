import Almanac.Power
/-!
ASCII letters and digits.

Keywords, unit words and the anchor `NOW` ignore the case of ASCII letters and of no others.
Numbers are written in ASCII digits; `Nat.toDigits` writes them and `Nat.ofDigitChars` reads
them, and `padded` writes a number in a fixed number of places.
-/

namespace Almanac.Text

/-- The text with its ASCII letters in upper case and all else unchanged. -/
def upper (cs : List Char) : List Char := cs.map Char.toUpper

/-- The text with its ASCII letters in lower case and all else unchanged. -/
def lower (cs : List Char) : List Char := cs.map Char.toLower

/-- Whether two texts agree up to the case of ASCII letters. -/
def sameLetters (a b : List Char) : Bool := upper a == upper b

/-- The text that follows `start` in `cs`, if `cs` begins with it. -/
def after? : List Char → List Char → Option (List Char)
  | [], cs => some cs
  | _ :: _, [] => none
  | s :: start, c :: cs => if s = c then after? start cs else none

/-- The text that follows `start` in `cs` when `cs` begins with it in any case. -/
def afterLetters? : List Char → List Char → Option (List Char)
  | [], cs => some cs
  | _ :: _, [] => none
  | s :: start, c :: cs => if s.toUpper = c.toUpper then afterLetters? start cs else none

/-! ## Numbers in decimal digits -/

/-- The number that a run of decimal digits stands for. -/
def number (digits : List Char) : Nat := Nat.ofDigitChars 10 digits 0

/-- The decimal digits of a number, without leading zeros. -/
def decimal (n : Nat) : List Char := Nat.toDigits 10 n

/-- The last `width` decimal digits of a number, with leading zeros. -/
def padded : Nat → Nat → List Char
  | 0, _ => []
  | width + 1, n => padded width (n / 10) ++ [Nat.digitChar (n % 10)]

/-- The decimal digits of a number, with leading zeros up to `width` places. -/
def atLeast (width : Nat) (n : Nat) : List Char :=
  if n < powerOfTen width then padded width n else decimal n

/-! ## What is written is read back -/

theorem length_padded (width n : Nat) : (padded width n).length = width := by
  induction width generalizing n with
  | zero => rfl
  | succ w ih => simp [padded, ih]

theorem number_decimal (n : Nat) : number (decimal n) = n := Nat.ofDigitChars_ten_toDigits

theorem number_padded (width n : Nat) : number (padded width n) = n % powerOfTen width := by
  induction width generalizing n with
  | zero => simp [number, padded, powerOfTen_zero, Nat.mod_one]
  | succ w ih =>
    have h := ih (n / 10)
    unfold number at h ⊢
    rw [padded, Nat.ofDigitChars_append, h,
      Nat.ofDigitChars_cons_digitChar_of_lt_ten (Nat.mod_lt _ (by decide)), Nat.ofDigitChars_nil,
      powerOfTen_succ, Nat.mul_comm (powerOfTen w) 10, Nat.mod_mul]
    omega

theorem isDigit_of_mem_padded {width n : Nat} {c : Char} (h : c ∈ padded width n) :
    c.isDigit = true := by
  induction width generalizing n with
  | zero => cases h
  | succ w ih =>
    rw [padded, List.mem_append, List.mem_singleton] at h
    rcases h with h | rfl
    · exact ih h
    · exact Nat.isDigit_of_mem_toDigits (b := 10) (n := n % 10) (by decide) (by decide)
        (by rw [Nat.toDigits_of_lt_base (Nat.mod_lt _ (by decide))]; exact List.mem_singleton.2 rfl)

end Almanac.Text
