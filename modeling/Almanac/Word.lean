/-!
Signed 64-bit words and their exact reading.

A word stands for the integer `toInt`. Arithmetic on words goes through the integers: it is done
exactly and then brought back, either with a check (`fit?`) or by clamping to the nearest word
(`clamp`), so that no operation of this library ever wraps.

Main statements: `fit?_eq_some_iff` (a checked result is the exact one), `fit?_eq_none_iff` (it is
absent exactly outside the word range) and `toInt_clamp` (a clamped result is the nearest word).
-/

namespace Almanac.Word

/-- The least integer that a word can stand for. -/
def least : Int := -9223372036854775808

/-- The greatest integer that a word can stand for. -/
def greatest : Int := 9223372036854775807

/-- An integer is representable when it lies between the least and the greatest word. -/
def Fits (n : Int) : Prop := least ≤ n ∧ n ≤ greatest

instance (n : Int) : Decidable (Fits n) := inferInstanceAs (Decidable (_ ∧ _))

/-- The word that stands for `n`, if there is one. -/
def fit? (n : Int) : Option Int64 :=
  if Fits n then some (Int64.ofInt n) else none

/-- The word nearest to `n`. -/
def clamp (n : Int) : Int64 :=
  if n < least then Int64.ofInt least
  else if greatest < n then Int64.ofInt greatest
  else Int64.ofInt n

/-- The product of two words, if it is representable. -/
def mul? (a b : Int64) : Option Int64 := fit? (a.toInt * b.toInt)

/-- The opposite of a word, if it is representable. -/
def neg? (a : Int64) : Option Int64 := fit? (-a.toInt)

/-! ## What the operations mean on integers -/

theorem fits_toInt (a : Int64) : Fits a.toInt :=
  ⟨Int64.le_toInt a, by have := Int64.toInt_lt a; unfold greatest; omega⟩

theorem toInt_ofInt_of_fits {n : Int} (h : Fits n) : (Int64.ofInt n).toInt = n :=
  Int64.toInt_ofInt_of_le (by have := h.1; unfold least at this; omega)
    (by have := h.2; unfold greatest at this; omega)

theorem fit?_toInt (a : Int64) : fit? a.toInt = some a := by
  simp [fit?, fits_toInt a]

/-- A checked result is the word that stands for the exact result. -/
theorem fit?_eq_some_iff {n : Int} {a : Int64} : fit? n = some a ↔ a.toInt = n := by
  constructor
  · intro h
    unfold fit? at h
    split at h
    · next hn => rw [← Option.some.inj h, toInt_ofInt_of_fits hn]
    · cases h
  · rintro rfl
    exact fit?_toInt a

theorem fit?_eq_none_iff {n : Int} : fit? n = none ↔ ¬ Fits n := by
  simp [fit?]

theorem fit?_of_fits {n : Int} (h : Fits n) : ∃ a : Int64, fit? n = some a ∧ a.toInt = n :=
  ⟨Int64.ofInt n, by simp [fit?, h], toInt_ofInt_of_fits h⟩

/-- Clamping moves an integer to the nearest end of the word range and no further. -/
theorem toInt_clamp (n : Int) : (clamp n).toInt = max least (min n greatest) := by
  unfold clamp
  split
  · rw [toInt_ofInt_of_fits (by decide)]; unfold least greatest at *; omega
  · split
    · rw [toInt_ofInt_of_fits (by decide)]; unfold least greatest at *; omega
    · rw [toInt_ofInt_of_fits ⟨by omega, by omega⟩]; omega

end Almanac.Word
