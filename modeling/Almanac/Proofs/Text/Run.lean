import Mathlib.Data.List.Basic
import Mathlib.Data.List.TakeWhile
import Almanac.Proofs.Text.Digits
/-!
# Runs of characters of one kind

A reader that takes every character of a kind takes exactly the run that was written, provided that
the text does not go on with one more of the kind (`Stops`).  The decimal forms of a number are such
runs of digits, and the number of the run is the number again.
-/

namespace Almanac.Text

variable {kind : Char → Bool} {c : Char} {run run' rest rest' : List Char} {n : Nat}

/-- A text that does not begin with a character of a kind. -/
def Stops (kind : Char → Bool) (rest : List Char) : Prop := ∀ c ∈ rest.head?, kind c = false

theorem stops_nil : Stops kind [] := nofun

theorem stops_cons (h : kind c = false) : Stops kind (c :: rest) := by
  intro d hd
  obtain rfl := Option.some.inj hd
  exact h

theorem stops_append (hne : run ≠ []) (hrun : ∀ c ∈ run, kind c = false) :
    Stops kind (run ++ rest) := by
  cases run with
  | nil => exact absurd rfl hne
  | cons c run => exact stops_cons (hrun c List.mem_cons_self)

theorem takeWhile_run (hrun : ∀ c ∈ run, kind c = true) (hrest : Stops kind rest) :
    (run ++ rest).takeWhile kind = run := by
  rw [List.takeWhile_append_of_pos hrun]
  cases rest with
  | nil => exact List.append_nil run
  | cons c rest =>
      have hc : kind c = false := hrest c rfl
      rw [List.takeWhile_cons_of_neg (by rw [hc]; exact Bool.false_ne_true), List.append_nil]

theorem dropWhile_run (hrun : ∀ c ∈ run, kind c = true) (hrest : Stops kind rest) :
    (run ++ rest).dropWhile kind = rest := by
  rw [List.dropWhile_append_of_pos hrun]
  cases rest with
  | nil => rfl
  | cons c rest =>
      have hc : kind c = false := hrest c rfl
      rw [List.dropWhile_cons_of_neg (by rw [hc]; exact Bool.false_ne_true)]

/-- A text has one run of a kind in front. -/
theorem run_unique (hrun : ∀ c ∈ run, kind c = true) (hrest : Stops kind rest)
    (hrun' : ∀ c ∈ run', kind c = true) (hrest' : Stops kind rest')
    (h : run ++ rest = run' ++ rest') : run = run' ∧ rest = rest' := by
  constructor
  · rw [← takeWhile_run hrun hrest, h, takeWhile_run hrun' hrest']
  · rw [← dropWhile_run hrun hrest, h, dropWhile_run hrun' hrest']

theorem stops_dropWhile (kind : Char → Bool) (cs : List Char) :
    Stops kind (cs.dropWhile kind) := by
  intro c hc
  have hhead := List.head?_dropWhile_not kind cs
  rw [Option.mem_def.mp hc] at hhead
  exact hhead

/-- Trimming takes a run of blanks from either end. -/
theorem exists_blanks (cs : List Char) :
    ∃ before after, (∀ c ∈ before, isBlank c = true) ∧ (∀ c ∈ after, isBlank c = true) ∧
      cs = before ++ trimStart cs ∧ trimStart cs = trim cs ++ after := by
  refine ⟨cs.takeWhile isBlank, ((trimStart cs).reverse.takeWhile isBlank).reverse, ?_, ?_, ?_, ?_⟩
  · intro c hc
    exact List.mem_takeWhile_imp hc
  · intro c hc
    exact List.mem_takeWhile_imp (List.mem_reverse.mp hc)
  · exact List.takeWhile_append_dropWhile.symm
  · rw [trim, trimEnd, ← List.reverse_append, List.takeWhile_append_dropWhile, List.reverse_reverse]

/-! ## Numbers as runs of digits -/

theorem isDigit_of_mem_decimal (h : c ∈ decimal n) : c.isDigit = true :=
  Nat.isDigit_of_mem_toDigits (by decide) (by decide) h

theorem decimal_ne_nil (n : Nat) : decimal n ≠ [] := Nat.toDigits_ne_nil

/-- The first digit of a number is zero for zero alone. -/
theorem head_decimal (hn : 0 < n) : (decimal n).head? ≠ some '0' := by
  induction n using Nat.strongRecOn with
  | ind n ih =>
      by_cases hone : n < 10
      · have hdigit : ∀ m < 10, 0 < m → Nat.digitChar m ≠ '0' := by decide
        rw [decimal, Nat.toDigits_of_lt_base hone, List.head?_cons]
        intro h
        exact hdigit n hone hn (Option.some.inj h)
      · have hhead := ih (n / 10) (by omega) (by omega)
        rw [decimal, Nat.toDigits_of_base_le (by decide) (by omega), ← decimal,
          List.head?_append_of_ne_nil _ (decimal_ne_nil (n / 10))]
        exact hhead

theorem exists_cons_decimal (n : Nat) : ∃ c ds, c.isDigit = true ∧ decimal n = c :: ds := by
  obtain ⟨c, ds, h⟩ := List.exists_cons_of_ne_nil (decimal_ne_nil n)
  exact ⟨c, ds, isDigit_of_mem_decimal (h ▸ List.mem_cons_self : c ∈ decimal n), h⟩

variable {width : Nat}

theorem isDigit_of_mem_atLeast (h : c ∈ atLeast width n) : c.isDigit = true := by
  unfold atLeast at h
  split at h
  · exact isDigit_of_mem_padded h
  · exact isDigit_of_mem_decimal h

theorem number_atLeast (width n : Nat) : number (atLeast width n) = n := by
  unfold atLeast
  split
  · next h => rw [number_padded, Nat.mod_eq_of_lt h]
  · exact number_decimal n

theorem length_le_atLeast (width n : Nat) : width ≤ (atLeast width n).length := by
  unfold atLeast
  split
  · exact Nat.le_of_eq (length_padded width n).symm
  · next h =>
    have hlt : n < powerOfTen (decimal n).length := by
      have hnumber : number (decimal n) < powerOfTen (decimal n).length :=
        number_lt fun c => isDigit_of_mem_decimal
      rwa [number_decimal] at hnumber
    refine Nat.le_of_lt (Nat.lt_of_not_le fun hle => h ?_)
    exact Nat.lt_of_lt_of_le hlt (Nat.pow_le_pow_right (by decide) hle)

end Almanac.Text
