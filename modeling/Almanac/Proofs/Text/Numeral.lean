import Almanac.Proofs.Text.Run
/-!
# Numbers in digits

`padded` and `atLeast` write a number; `IsNumeral` says what they write.  It is stated by how the
digits are read, and of all runs of digits that are read as the number there is one that has zeros
in front just up to the width (`IsNumeral.unique`).
-/

namespace Almanac.Text

variable {width n : Nat} {cs text text' : List Char}

/-- A number in decimal digits, with zeros in front up to `width` places. -/
structure IsNumeral (width n : Nat) (text : List Char) : Prop where
  isDigit : ∀ c ∈ text, c.isDigit = true
  number_eq : number text = n
  /-- What is longer has no zero in front. -/
  length : text.length = width ∨ width < text.length ∧ text.head? ≠ some '0'

theorem isNumeral_padded (h : n < powerOfTen width) : IsNumeral width n (padded width n) :=
  ⟨fun _ => isDigit_of_mem_padded, (number_padded width n).trans (Nat.mod_eq_of_lt h),
    Or.inl (length_padded width n)⟩

theorem isNumeral_atLeast (width n : Nat) : IsNumeral width n (atLeast width n) := by
  refine ⟨fun _ => isDigit_of_mem_atLeast, number_atLeast width n, ?_⟩
  rcases Nat.eq_or_lt_of_le (length_le_atLeast width n) with hlength | hlength
  · exact Or.inl hlength.symm
  · have hwide : ¬ n < powerOfTen width := by
      intro h
      rw [atLeast, if_pos h, length_padded] at hlength
      exact Nat.lt_irrefl width hlength
    refine Or.inr ⟨hlength, ?_⟩
    rw [atLeast, if_neg hwide]
    exact head_decimal (Nat.lt_of_lt_of_le (powerOfTen_pos width) (Nat.le_of_not_lt hwide))

/-- A run that does not begin with zero needs all of its places. -/
theorem powerOfTen_le_number (h : ∀ c ∈ cs, c.isDigit = true) (hne : cs ≠ [])
    (hhead : cs.head? ≠ some '0') : powerOfTen (cs.length - 1) ≤ number cs := by
  cases cs with
  | nil => exact absurd rfl hne
  | cons c cs =>
      have hdigit := isDigit_iff.mp (h c List.mem_cons_self)
      have hzero : c.toNat ≠ 48 := fun hc => hhead (congrArg some (Char.toNat_inj.mp hc))
      have hone : number [c] = c.toNat - '0'.toNat := by
        rw [number, Nat.ofDigitChars_cons, Nat.ofDigitChars_nil, Nat.mul_zero, Nat.zero_add]
      have h0 : '0'.toNat = 48 := rfl
      have hpos : 1 ≤ number [c] := by omega
      rw [← List.singleton_append, number_append, List.singleton_append, List.length_cons,
        Nat.add_sub_cancel]
      exact Nat.le_trans (Nat.le_mul_of_pos_left _ hpos) (Nat.le_add_right _ _)

theorem IsNumeral.length_le (h : IsNumeral width n text) (h' : IsNumeral width n text') :
    text.length ≤ text'.length := by
  have hwidth : width ≤ text'.length := by
    rcases h'.length with hlength | ⟨hlength, -⟩
    · exact Nat.le_of_eq hlength.symm
    · exact Nat.le_of_lt hlength
  rcases h.length with hlength | ⟨hlength, hhead⟩
  · exact hlength ▸ hwidth
  · -- the places that the number needs are there in the other text
    refine Nat.le_of_not_lt fun hlt => ?_
    have hne : text ≠ [] := by
      rintro rfl
      exact Nat.not_lt_zero width hlength
    have hlow := powerOfTen_le_number h.isDigit hne hhead
    have hhigh := number_lt h'.isDigit
    rw [h.number_eq] at hlow
    rw [h'.number_eq] at hhigh
    have hpow : powerOfTen text'.length ≤ powerOfTen (text.length - 1) :=
      Nat.pow_le_pow_right (by decide) (by omega)
    omega

theorem IsNumeral.unique (h : IsNumeral width n text) (h' : IsNumeral width n text') :
    text = text' := by
  have hlength := Nat.le_antisymm (h.length_le h') (h'.length_le h)
  rw [← padded_number h.isDigit, ← padded_number h'.isDigit, h.number_eq, h'.number_eq, hlength]

end Almanac.Text
