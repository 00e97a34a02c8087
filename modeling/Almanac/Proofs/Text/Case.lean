import Almanac.Text.Ascii
/-!
# Upper case

Putting a text in upper case moves 26 letters and leaves everything else, so it keeps which
characters are letters and which are digits.
-/

namespace Almanac.Text

variable {c : Char} {rest : List Char}

theorem toNat_toUpper (c : Char) :
    c.toUpper.toNat = if 97 ≤ c.toNat ∧ c.toNat ≤ 122 then c.toNat - 32 else c.toNat := by
  unfold Char.toUpper
  split
  · next h =>
    have hlow : 97 ≤ c.toNat := h.1
    have hhigh : c.toNat ≤ 122 := h.2
    rw [if_pos ⟨hlow, hhigh⟩]
    show (c.val + ('A'.val - 'a'.val)).toNat = c.toNat - 32
    have hval : c.val.toNat = c.toNat := rfl
    have hgap : ('A'.val - 'a'.val).toNat = 4294967264 := by decide
    rw [UInt32.toNat_add, hval, hgap]
    omega
  · next h => rw [if_neg (show ¬ (97 ≤ c.toNat ∧ c.toNat ≤ 122) from h)]

theorem isUpper_iff : c.isUpper = true ↔ 65 ≤ c.toNat ∧ c.toNat ≤ 90 := by
  show decide ('A'.val ≤ c.val ∧ c.val ≤ 'Z'.val) = true ↔ _
  rw [decide_eq_true_iff]
  exact Iff.rfl

theorem isLower_iff : c.isLower = true ↔ 97 ≤ c.toNat ∧ c.toNat ≤ 122 := by
  show (decide ('a'.val ≤ c.val) && decide (c.val ≤ 'z'.val)) = true ↔ _
  rw [Bool.and_eq_true, decide_eq_true_iff, decide_eq_true_iff]
  exact Iff.rfl

theorem isAlpha_iff :
    c.isAlpha = true ↔ (65 ≤ c.toNat ∧ c.toNat ≤ 90) ∨ (97 ≤ c.toNat ∧ c.toNat ≤ 122) := by
  show (c.isUpper || c.isLower) = true ↔ _
  rw [Bool.or_eq_true, isUpper_iff, isLower_iff]

theorem isAlpha_toUpper (c : Char) : c.toUpper.isAlpha = c.isAlpha := by
  rw [Bool.eq_iff_iff, isAlpha_iff, isAlpha_iff, toNat_toUpper]
  split <;> omega

theorem toUpper_of_not_isAlpha (h : c.isAlpha = false) : c.toUpper = c := by
  rw [← Bool.not_eq_true, isAlpha_iff] at h
  apply Char.toNat_inj.mp
  rw [toNat_toUpper, if_neg (by omega)]

theorem toUpper_toUpper (c : Char) : c.toUpper.toUpper = c.toUpper := by
  apply Char.toNat_inj.mp
  rw [toNat_toUpper c.toUpper, if_neg]
  rw [toNat_toUpper]
  split <;> omega

theorem upper_append (cs ds : List Char) : upper (cs ++ ds) = upper cs ++ upper ds :=
  List.map_append

theorem upper_eq_self {cs : List Char} (h : ∀ c ∈ cs, c.toUpper = c) : upper cs = cs :=
  (List.map_congr_left h).trans (List.map_id cs)

theorem upper_upper (cs : List Char) : upper (upper cs) = upper cs := by
  refine upper_eq_self fun c hc => ?_
  obtain ⟨d, -, rfl⟩ := List.mem_map.mp hc
  exact toUpper_toUpper d

/-! ## Beginnings of texts -/

theorem after?_eq_some_iff : ∀ {start cs rest : List Char},
    after? start cs = some rest ↔ cs = start ++ rest
  | [], cs, rest => by
      simp [after?]
  | s :: start, [], rest => by
      simp [after?]
  | s :: start, c :: cs, rest => by
      simp only [after?, List.cons_append, List.cons.injEq]
      by_cases hs : s = c
      · rw [if_pos hs, after?_eq_some_iff]
        exact ⟨fun h => ⟨hs.symm, h⟩, And.right⟩
      · rw [if_neg hs]
        exact ⟨nofun, fun h => absurd h.1.symm hs⟩

/-- Texts of one length agree up to case or do not. -/
theorem afterLetters?_append : ∀ {start cs : List Char}, start.length = cs.length →
    afterLetters? start (cs ++ rest) =
      if upper start = upper cs then some rest else none
  | [], [], _ => rfl
  | s :: start, c :: cs, h => by
      simp only [List.cons_append, afterLetters?, upper, List.map_cons, List.cons.injEq]
      by_cases hc : s.toUpper = c.toUpper
      · simp only [hc, true_and]
        exact afterLetters?_append (Nat.succ.inj h)
      · simp only [hc, false_and, if_false]

end Almanac.Text
