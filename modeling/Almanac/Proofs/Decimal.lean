import Mathlib.Data.Rat.Floor
import Mathlib.Tactic.FieldSimp
import Mathlib.Tactic.Ring
import Almanac.Decimal
import Almanac.Proofs.Text.Digits
/-!
# Decimal numbers as rationals

A decimal stands for a rational number (`toRat`), and the library rounds it only when its digits are
too many.  A literal whose digits all fit is read exactly (`read?_literal`), a product whose digits
fit is exact (`times?_of_fits`), and cutting a decimal to its integer part is the floor of the
number that it stands for (`trunc_eq_floor`).
-/

namespace Almanac.Decimal

variable {d : Decimal} {whole places cs rest : List Char} {any : Bool} {m n scale : Nat}

/-- The rational number that a decimal stands for. -/
def toRat (d : Decimal) : ℚ := d.mantissa / 10 ^ d.scale

theorem trunc_eq_floor (d : Decimal) : (d.trunc : Int) = ⌊d.toRat⌋ := by
  have hpower : powerOfTen d.scale = 10 ^ d.scale := rfl
  have hcast : d.toRat = (d.mantissa : ℚ) / ((10 ^ d.scale : Nat) : ℚ) := by
    rw [toRat, Nat.cast_pow]
    rfl
  rw [hcast, Rat.floor_natCast_div_natCast, trunc, hpower, Int.natCast_div]

theorem times?_of_fits (h : d.mantissa * n < limit) :
    ∃ p : Decimal, d.times? n = some p ∧ p.toRat = d.toRat * n := by
  refine ⟨⟨d.mantissa * n, d.scale⟩, ?_, ?_⟩
  · rw [times?, fit?, if_pos h]
  · rw [toRat, toRat, Nat.cast_mul]
    ring

/-! ## Literals -/

/-- Digits, and perhaps a point and more digits. -/
def literal (whole : List Char) : List Char → List Char
  | [] => whole
  | place :: places => whole ++ '.' :: place :: places

/-- The number of a literal. -/
def value (whole places : List Char) : ℚ :=
  Text.number whole + Text.number places / 10 ^ places.length

theorem toRat_digits :
    toRat ⟨Text.number (whole ++ places), places.length⟩ = value whole places := by
  rw [toRat, value, Text.number_append]
  push_cast
  field_simp

theorem le_ofDigitChars : ∀ (cs : List Char) (m : Nat), m ≤ Nat.ofDigitChars 10 cs m
  | [], m => Nat.le_of_eq (Nat.ofDigitChars_nil).symm
  | c :: cs, m => by
      rw [Nat.ofDigitChars_cons]
      exact Nat.le_trans (by omega) (le_ofDigitChars cs _)

theorem mul_add_digit (m : Nat) (c : Char) : m * 10 + digit c = 10 * m + (c.toNat - '0'.toNat) := by
  rw [Nat.mul_comm]
  rfl

/-- Digits after the point are taken one place at a time while there is room for all of them. -/
theorem readPlaces?_digits (hdigits : ∀ c ∈ cs, c.isDigit = true)
    (hfits : Nat.ofDigitChars 10 cs m < limit) (hscale : scale + cs.length ≤ greatestScale)
    (hsome : any = true ∨ cs ≠ []) :
    readPlaces? any m scale cs = some ⟨Nat.ofDigitChars 10 cs m, scale + cs.length⟩ := by
  induction cs generalizing any m scale with
  | nil =>
      rw [readPlaces?, if_pos (hsome.resolve_right fun h => h rfl), Nat.ofDigitChars_nil]
      rfl
  | cons c cs ih =>
      rw [Nat.ofDigitChars_cons, ← mul_add_digit] at hfits
      rw [List.length_cons] at hscale
      have hroom : hasPlace m scale c = true := by
        have hle := le_ofDigitChars cs (m * 10 + digit c)
        simp only [hasPlace, Bool.and_eq_true, decide_eq_true_eq]
        omega
      rw [readPlaces?, hdigits c List.mem_cons_self, if_neg (by decide), if_pos hroom,
        ih (fun d hd => hdigits d (List.mem_cons_of_mem c hd)) hfits (by omega) (Or.inl rfl),
        Nat.ofDigitChars_cons, mul_add_digit, List.length_cons, Nat.add_right_comm, Nat.add_assoc]

theorem readWhole?_digits (hdigits : ∀ c ∈ cs, c.isDigit = true)
    (hfits : Nat.ofDigitChars 10 cs m < limit) :
    readWhole? any m (cs ++ rest) =
      readWhole? (any || !cs.isEmpty) (Nat.ofDigitChars 10 cs m) rest := by
  induction cs generalizing any m with
  | nil => simp
  | cons c cs ih =>
      have hc := hdigits c List.mem_cons_self
      rw [Nat.ofDigitChars_cons, ← mul_add_digit] at hfits
      have hle := le_ofDigitChars cs (m * 10 + digit c)
      rw [List.cons_append, readWhole?, if_neg (Text.isDigit_ne hc (by decide)),
        if_pos ⟨hc, by omega⟩, ih (fun d hd => hdigits d (List.mem_cons_of_mem c hd)) hfits,
        Nat.ofDigitChars_cons, mul_add_digit]
      simp

/-- A literal whose digits fit is read as the number that it stands for. -/
theorem read?_literal (hne : whole ≠ []) (hdigits : ∀ c ∈ whole ++ places, c.isDigit = true)
    (hfits : Text.number (whole ++ places) < limit) (hscale : places.length ≤ greatestScale) :
    read? (literal whole places) = some ⟨Text.number (whole ++ places), places.length⟩ := by
  have hwhole : ∀ c ∈ whole, c.isDigit = true := fun c hc => hdigits c (List.mem_append_left _ hc)
  have hplaces : ∀ c ∈ places, c.isDigit = true :=
    fun c hc => hdigits c (List.mem_append_right _ hc)
  have hsome : (false || !whole.isEmpty) = true := by simpa using hne
  have happend : Text.number (whole ++ places)
      = Nat.ofDigitChars 10 places (Nat.ofDigitChars 10 whole 0) := by
    rw [Text.number, Nat.ofDigitChars_append]
  rw [happend] at hfits ⊢
  have hfront : Nat.ofDigitChars 10 whole 0 < limit :=
    Nat.lt_of_le_of_lt (le_ofDigitChars places _) hfits
  cases places with
  | nil =>
      rw [read?, literal, ← List.append_nil whole, readWhole?_digits hwhole hfront, hsome,
        List.append_nil, Nat.ofDigitChars_nil]
      rfl
  | cons place places =>
      rw [read?, literal, readWhole?_digits hwhole hfront, readWhole?, if_pos rfl,
        readPlaces?_digits hplaces hfits (by omega) (Or.inr (List.cons_ne_nil _ _)), Nat.zero_add]

end Almanac.Decimal
