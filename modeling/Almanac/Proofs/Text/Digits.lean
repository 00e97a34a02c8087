import Mathlib.Algebra.Group.Nat.Defs
import Mathlib.Data.List.Induction
import Almanac.Proofs.Text.Case
import Almanac.Text.Blank
import Almanac.Text.Bytes
/-!
# Digits

Digits are no blanks, no signs and no letters.  A run of decimal digits stands for a number with at
most that many places, and a number that is written in a fixed number of places is such a run.
-/

namespace Almanac.Text

variable {c : Char} {cs rest : List Char}

/-! ## One digit -/

theorem isDigit_iff : c.isDigit = true ↔ 48 ≤ c.toNat ∧ c.toNat ≤ 57 := by
  simp only [Char.isDigit, Bool.and_eq_true, decide_eq_true_eq]
  exact Iff.rfl

theorem toUpper_of_isDigit (h : c.isDigit = true) : c.toUpper = c := by
  rw [isDigit_iff] at h
  refine toUpper_of_not_isAlpha ?_
  rw [← Bool.not_eq_true, isAlpha_iff]
  omega

theorem isDigit_toUpper (c : Char) : c.toUpper.isDigit = c.isDigit := by
  rw [Bool.eq_iff_iff, isDigit_iff, isDigit_iff, toNat_toUpper]
  split <;> omega

theorem isDigit_ne {c d : Char} (h : c.isDigit = true) (hd : d.isDigit = false) : c ≠ d := by
  rintro rfl
  rw [h] at hd
  cases hd

theorem isDigit_of_isAlpha (h : c.isAlpha = true) : c.isDigit = false := by
  rw [isAlpha_iff] at h
  rw [← Bool.not_eq_true, isDigit_iff]
  omega

theorem isBlank_of_isDigit (h : c.isDigit = true) : isBlank c = false := by
  rw [isDigit_iff] at h
  simp only [isBlank, Ranges.has, blankRanges, List.any_cons, List.any_nil, Bool.or_eq_false_iff,
    Bool.and_eq_false_iff, decide_eq_false_iff_not, and_true]
  omega

/-! ## The number of a run of digits -/

theorem digit_le (h : c.isDigit = true) : c.toNat - '0'.toNat ≤ 9 := by
  rw [isDigit_iff] at h
  have h0 : '0'.toNat = 48 := rfl
  omega

theorem ofDigitChars_lt : ∀ {cs : List Char} {n : Nat}, (∀ c ∈ cs, c.isDigit = true) →
    Nat.ofDigitChars 10 cs n < (n + 1) * powerOfTen cs.length
  | [], n, _ => by
      rw [Nat.ofDigitChars_nil, List.length_nil, powerOfTen_zero]
      omega
  | c :: cs, n, h => by
      have hc := digit_le (h c List.mem_cons_self)
      have ih : Nat.ofDigitChars 10 cs (10 * n + (c.toNat - '0'.toNat))
          < (10 * n + (c.toNat - '0'.toNat) + 1) * powerOfTen cs.length :=
        ofDigitChars_lt fun d hd => h d (List.mem_cons_of_mem c hd)
      rw [Nat.ofDigitChars_cons, List.length_cons, powerOfTen_succ]
      refine Nat.lt_of_lt_of_le ih ?_
      rw [Nat.mul_comm (powerOfTen cs.length) 10, ← Nat.mul_assoc]
      exact Nat.mul_le_mul_right _ (by omega)

theorem number_lt (h : ∀ c ∈ cs, c.isDigit = true) :
    number cs < powerOfTen cs.length := by
  have hlt := ofDigitChars_lt (n := 0) h
  unfold number
  omega

/-- Of two runs the first one counts in units of the places of the second. -/
theorem number_append (a b : List Char) :
    number (a ++ b) = number a * 10 ^ b.length + number b := by
  unfold number
  rw [Nat.ofDigitChars_append, Nat.ofDigitChars_eq_ofDigitChars_zero, Nat.mul_comm]

theorem digitChar_number (h : c.isDigit = true) : Nat.digitChar (c.toNat - '0'.toNat) = c := by
  have hle := digit_le h
  rw [isDigit_iff] at h
  refine Char.toNat_inj.mp ?_
  rw [Nat.toNat_digitChar_of_lt_ten (by omega)]
  have h0 : '0'.toNat = 48 := rfl
  omega

/-- A run of digits is the number that it stands for, written in as many places. -/
theorem padded_number (h : ∀ c ∈ cs, c.isDigit = true) : padded cs.length (number cs) = cs := by
  induction cs using List.reverseRecOn with
  | nil => rfl
  | append_singleton cs c ih =>
      have hc : c.isDigit = true := h c List.mem_concat_self
      have hdigit := digit_le hc
      have hone : number [c] = c.toNat - '0'.toNat := by
        rw [number, Nat.ofDigitChars_cons, Nat.ofDigitChars_nil, Nat.mul_zero, Nat.zero_add]
      have hnumber : number (cs ++ [c]) = 10 * number cs + (c.toNat - '0'.toNat) := by
        rw [number_append, hone, List.length_singleton, Nat.pow_one, Nat.mul_comm]
      have hdiv : number (cs ++ [c]) / 10 = number cs := by omega
      have hmod : number (cs ++ [c]) % 10 = c.toNat - '0'.toNat := by omega
      rw [List.length_append, List.length_singleton, padded, hdiv, hmod, digitChar_number hc,
        ih fun d hd => h d (List.mem_append_left [c] hd)]

/-! ## Digits at the start of a text -/

theorem length_le_byteLength : ∀ cs : List Char, cs.length ≤ byteLength cs
  | [] => Nat.le_refl 0
  | c :: cs => by
      have hc := c.utf8Size_pos
      have ih := length_le_byteLength cs
      rw [List.length_cons, byteLength]
      omega

/-! ## Blanks in front -/

theorem trimStart_of_isBlank (h : isBlank c = true) : trimStart (c :: cs) = trimStart cs :=
  List.dropWhile_cons_of_pos h

theorem trimStart_of_not_isBlank (h : isBlank c = false) : trimStart (c :: cs) = c :: cs :=
  List.dropWhile_cons_of_neg (by rw [h]; exact Bool.false_ne_true)

theorem trimStart_digits (hne : cs ≠ []) (h : ∀ c ∈ cs, c.isDigit = true) :
    trimStart (cs ++ rest) = cs ++ rest := by
  cases cs with
  | nil => exact absurd rfl hne
  | cons c cs =>
      exact trimStart_of_not_isBlank (isBlank_of_isDigit (h c List.mem_cons_self))

theorem padded_ne_nil (width n : Nat) : padded (width + 1) n ≠ [] := by
  simp [padded]

end Almanac.Text
