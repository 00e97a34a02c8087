import Almanac.Text.Bytes
/-!
# Encoded characters

A character is one to four bytes: its number in groups of six bits, behind a first byte that says
how many groups there are (`IsEncoding`).  Reading goes the other way: a first byte opens a state,
and `Completes` says which bytes that state still waits for and which character they end.  The two
meet in `utf8EncodeChar_eq_cons_iff`: a first byte and what completes its state are an encoded
character, and nothing else is.

The ranges in which the machine wants the second byte are what makes this exact.  They leave out the
numbers that a shorter form has, the gap of the surrogates and everything past the last character;
a wider range would complete bytes that encode nothing.
-/

namespace Almanac.Text

variable {c : Char} {b : UInt8} {bytes : List UInt8}

/-! ## The bytes of a character in numbers -/

theorem toNat_valid (c : Char) : c.toNat < 0xD800 ∨ 0xDFFF < c.toNat ∧ c.toNat < 0x110000 := c.valid

theorem toNat_of_ofNat {n : Nat} (h : Char.ofNat n = c)
    (hn : n < 0xD800 ∨ 0xDFFF < n ∧ n < 0x110000) : c.toNat = n := by
  have hvalid : n.isValidChar := hn
  have hchar : Char.ofNat n = Char.ofNatAux n hvalid := dif_pos hvalid
  rw [← h, hchar]
  rfl

theorem ofNat_of_toNat {n : Nat} (h : n = c.toNat) : Char.ofNat n = c := h ▸ c.ofNat_toNat

theorem toNat_byte {n : Nat} (h : n < 256) : (UInt8.ofNat n).toNat = n := UInt8.toNat_ofNat_of_lt' h

/-- The bytes are those of a character, by the groups of six bits that its number has. -/
inductive IsEncoding (c : Char) : List UInt8 → Prop
  | one {b : UInt8} : c.toNat ≤ 0x7F → b.toNat = c.toNat → IsEncoding c [b]
  | two {b b₁ : UInt8} : 0x7F < c.toNat → c.toNat ≤ 0x7FF →
      b.toNat = 0xC0 + c.toNat / 64 → b₁.toNat = 0x80 + c.toNat % 64 → IsEncoding c [b, b₁]
  | three {b b₁ b₂ : UInt8} : 0x7FF < c.toNat → c.toNat ≤ 0xFFFF →
      b.toNat = 0xE0 + c.toNat / 4096 → b₁.toNat = 0x80 + c.toNat / 64 % 64 →
        b₂.toNat = 0x80 + c.toNat % 64 → IsEncoding c [b, b₁, b₂]
  | four {b b₁ b₂ b₃ : UInt8} : 0xFFFF < c.toNat →
      b.toNat = 0xF0 + c.toNat / 262144 → b₁.toNat = 0x80 + c.toNat / 4096 % 64 →
        b₂.toNat = 0x80 + c.toNat / 64 % 64 → b₃.toNat = 0x80 + c.toNat % 64 →
          IsEncoding c [b, b₁, b₂, b₃]

theorem isEncoding_utf8EncodeChar (c : Char) : IsEncoding c (String.utf8EncodeChar c) := by
  have hvalid := toNat_valid c
  have hval : c.val.toNat = c.toNat := rfl
  simp only [String.utf8EncodeChar, hval]
  split
  · exact .one ‹_› (toNat_byte (by omega))
  · split
    · refine .two (by omega) ‹_› ?_ ?_ <;> rw [toNat_byte] <;> omega
    · split
      · refine .three (by omega) ‹_› ?_ ?_ ?_ <;> rw [toNat_byte] <;> omega
      · refine .four (by omega) ?_ ?_ ?_ ?_ <;> rw [toNat_byte] <;> omega

theorem IsEncoding.unique {bytes' : List UInt8} (h : IsEncoding c bytes)
    (h' : IsEncoding c bytes') : bytes = bytes' := by
  refine (List.map_inj_right fun _ _ => UInt8.toNat_inj.mp).mp ?_
  -- a number has one length only, and with it every byte is given
  cases h <;> cases h' <;>
    simp only [List.map_cons, List.map_nil, List.cons.injEq, reduceCtorEq, and_true, and_false] <;>
    omega

theorem utf8EncodeChar_eq_iff : String.utf8EncodeChar c = bytes ↔ IsEncoding c bytes :=
  ⟨fun h => h ▸ isEncoding_utf8EncodeChar c, fun h => (isEncoding_utf8EncodeChar c).unique h⟩

namespace Decoding

/-! ## First bytes -/

section Start

variable {n : Nat}

theorem start_one (h : n ≤ 0x7F) : start n = ([Char.ofNat n], .fresh) := if_pos (by omega)

theorem start_two (h : 0xC2 ≤ n ∧ n ≤ 0xDF) :
    start n = ([], .within (n - 0xC0) 0 0x80 0xBF) := by
  rw [start, if_neg (by omega), if_pos h]

theorem start_three (h : 0xE0 ≤ n ∧ n ≤ 0xEF) :
    start n = ([], .within (n - 0xE0) 1 (if n = 0xE0 then 0xA0 else 0x80)
      (if n = 0xED then 0x9F else 0xBF)) := by
  by_cases hshort : n = 0xE0
  · subst hshort
    rfl
  · by_cases hgap : n = 0xED
    · subst hgap
      rfl
    · rw [start, if_neg (by omega), if_neg (by omega), if_neg hshort, if_neg hgap,
        if_pos (by omega), if_neg hshort, if_neg hgap]

theorem start_four (h : 0xF0 ≤ n ∧ n ≤ 0xF4) :
    start n = ([], .within (n - 0xF0) 2 (if n = 0xF0 then 0x90 else 0x80)
      (if n = 0xF4 then 0x8F else 0xBF)) := by
  by_cases hshort : n = 0xF0
  · subst hshort
    rfl
  · by_cases hlast : n = 0xF4
    · subst hlast
      rfl
    · rw [start, if_neg (by omega), if_neg (by omega), if_neg (by omega), if_neg (by omega),
        if_neg (by omega), if_neg hshort, if_pos (by omega), if_neg hshort, if_neg hlast]

theorem start_none (h : 0x7F < n ∧ n < 0xC2 ∨ 0xF4 < n) : start n = ([replacement], .fresh) := by
  rw [start, if_neg (by omega), if_neg (by omega), if_neg (by omega), if_neg (by omega),
    if_neg (by omega), if_neg (by omega), if_neg (by omega), if_neg (by omega)]

/-- A first byte is a character, or it opens one of two, three or four bytes, or it is none. -/
theorem start_ranges (n : Nat) :
    n ≤ 0x7F ∨ (0xC2 ≤ n ∧ n ≤ 0xDF) ∨ (0xE0 ≤ n ∧ n ≤ 0xEF) ∨ (0xF0 ≤ n ∧ n ≤ 0xF4) ∨
      (0x7F < n ∧ n < 0xC2 ∨ 0xF4 < n) := by
  omega

/-- A character is open, and some byte is in the range of the next one. -/
def IsWaiting : Decoding → Prop
  | .fresh => False
  | .within _ _ low high => low ≤ high ∧ high ≤ 0xFF

theorem start_cases (n : Nat) :
    (n ≤ 0x7F ∧ start n = ([Char.ofNat n], .fresh)) ∨
      0x7F < n ∧ (start n = ([replacement], .fresh) ∨
        (start n).1 = [] ∧ (start n).2.IsWaiting) := by
  rcases start_ranges n with h | h | h | h | h
  · exact .inl ⟨h, start_one h⟩
  · rw [start_two h]
    exact .inr ⟨by omega, .inr ⟨rfl, by decide, by decide⟩⟩
  · rw [start_three h]
    refine .inr ⟨by omega, .inr ⟨rfl, ?_, ?_⟩⟩
    · split <;> split <;> omega
    · split <;> omega
  · rw [start_four h]
    refine .inr ⟨by omega, .inr ⟨rfl, ?_, ?_⟩⟩
    · split <;> split <;> omega
    · split <;> omega
  · exact .inr ⟨by omega, .inl (start_none h)⟩

end Start

/-! ## What an open character waits for -/

/-- What a state still waits for: bytes in their ranges, and the character that they end. -/
inductive Completes : Decoding → List UInt8 → Char → Prop
  | last {bits low high : Nat} {b : UInt8} {c : Char} : low ≤ b.toNat → b.toNat ≤ high →
      Char.ofNat (bits * 64 + b.toNat % 64) = c → Completes (.within bits 0 low high) [b] c
  | more {bits left low high : Nat} {b : UInt8} {bytes : List UInt8} {c : Char} :
      low ≤ b.toNat → b.toNat ≤ high →
        Completes (.within (bits * 64 + b.toNat % 64) left 0x80 0xBF) bytes c →
          Completes (.within bits (left + 1) low high) (b :: bytes) c

variable {bits left low high : Nat} {d : Decoding} {taken : List UInt8}

theorem not_completes_fresh : ¬ Completes .fresh bytes c := nofun

theorem completes_last_iff :
    Completes (.within bits 0 low high) bytes c ↔
      ∃ b : UInt8, bytes = [b] ∧ low ≤ b.toNat ∧ b.toNat ≤ high ∧
        Char.ofNat (bits * 64 + b.toNat % 64) = c := by
  constructor
  · intro h
    cases h with
    | last hlow hhigh hc => exact ⟨_, rfl, hlow, hhigh, hc⟩
  · rintro ⟨b, rfl, hlow, hhigh, hc⟩
    exact .last hlow hhigh hc

theorem completes_more_iff :
    Completes (.within bits (left + 1) low high) bytes c ↔
      ∃ b tail, bytes = b :: tail ∧ low ≤ b.toNat ∧ b.toNat ≤ high ∧
        Completes (.within (bits * 64 + b.toNat % 64) left 0x80 0xBF) tail c := by
  constructor
  · intro h
    cases h with
    | more hlow hhigh h => exact ⟨_, _, rfl, hlow, hhigh, h⟩
  · rintro ⟨b, tail, rfl, hlow, hhigh, h⟩
    exact .more hlow hhigh h

theorem Completes.head (h : Completes (.within bits left low high) (b :: bytes) c) :
    low ≤ b.toNat ∧ b.toNat ≤ high := by
  cases h with
  | last hlow hhigh _ => exact ⟨hlow, hhigh⟩
  | more hlow hhigh _ => exact ⟨hlow, hhigh⟩

theorem Completes.run_append {rest : List UInt8} (h : Completes d taken c) :
    d.run (taken ++ rest) = c :: fresh.run rest := by
  induction h with
  | last hlow hhigh hc =>
      rw [List.singleton_append, run, step, if_pos ⟨hlow, hhigh⟩, hc]
      rfl
  | more hlow hhigh _ ih =>
      rw [List.cons_append, run, step, if_pos ⟨hlow, hhigh⟩]
      exact ih

/-- Something always completes an open character. -/
theorem exists_completes (left : Nat) : ∀ bits low high : Nat, low ≤ high ∧ high ≤ 0xFF →
    ∃ tail c, Completes (.within bits left low high) tail c := by
  induction left with
  | zero =>
      intro bits low high h
      have hlow : (UInt8.ofNat low).toNat = low := toNat_byte (by omega)
      exact ⟨[UInt8.ofNat low], _, .last (by omega) (by omega) rfl⟩
  | succ left ih =>
      intro bits low high h
      have hlow : (UInt8.ofNat low).toNat = low := toNat_byte (by omega)
      obtain ⟨tail, c, htail⟩ :=
        ih (bits * 64 + (UInt8.ofNat low).toNat % 64) 0x80 0xBF (by decide)
      exact ⟨UInt8.ofNat low :: tail, c, .more (by omega) (by omega) htail⟩

/-! ## The bytes that complete a first byte -/

theorem completes_start (h : IsEncoding c (b :: bytes)) (hb : 0x7F < b.toNat) :
    Completes (start b.toNat).2 bytes c := by
  have hvalid := toNat_valid c
  cases h with
  | one hmax hb => omega
  | two hmin hmax hb h₁ =>
      rw [start_two (by omega)]
      exact .last (by omega) (by omega) (ofNat_of_toNat (by omega))
  | three hmin hmax hb h₁ h₂ =>
      rw [start_three (by omega)]
      exact .more (by split <;> omega) (by split <;> omega)
        (.last (by omega) (by omega) (ofNat_of_toNat (by omega)))
  | four hmin hb h₁ h₂ h₃ =>
      rw [start_four (by omega)]
      exact .more (by split <;> omega) (by split <;> omega)
        (.more (by omega) (by omega) (.last (by omega) (by omega) (ofNat_of_toNat (by omega))))

theorem Completes.isEncoding (h : Completes (start b.toNat).2 bytes c) :
    IsEncoding c (b :: bytes) := by
  rcases start_ranges b.toNat with hb | hb | hb | hb | hb
  · rw [start_one hb] at h
    exact absurd h not_completes_fresh
  · rw [start_two hb] at h
    obtain ⟨b₁, rfl, hlow, hhigh, hc⟩ := completes_last_iff.mp h
    have hnumber := toNat_of_ofNat hc (by omega)
    exact .two (by omega) (by omega) (by omega) (by omega)
  · rw [start_three hb] at h
    obtain ⟨b₁, _, rfl, hlow, hhigh, h⟩ := completes_more_iff.mp h
    obtain ⟨b₂, rfl, hlow₂, hhigh₂, hc⟩ := completes_last_iff.mp h
    split at hlow <;> split at hhigh <;>
      · have hnumber := toNat_of_ofNat hc (by omega)
        exact .three (by omega) (by omega) (by omega) (by omega) (by omega)
  · rw [start_four hb] at h
    obtain ⟨b₁, _, rfl, hlow, hhigh, h⟩ := completes_more_iff.mp h
    obtain ⟨b₂, _, rfl, hlow₂, hhigh₂, h⟩ := completes_more_iff.mp h
    obtain ⟨b₃, rfl, hlow₃, hhigh₃, hc⟩ := completes_last_iff.mp h
    split at hlow <;> split at hhigh <;>
      · have hnumber := toNat_of_ofNat hc (by omega)
        exact .four (by omega) (by omega) (by omega) (by omega) (by omega)
  · rw [start_none hb] at h
    exact absurd h not_completes_fresh

/-- Past ASCII a first byte and what completes it are an encoded character, and nothing else is. -/
theorem utf8EncodeChar_eq_cons_iff (hb : 0x7F < b.toNat) :
    String.utf8EncodeChar c = b :: bytes ↔ Completes (start b.toNat).2 bytes c :=
  utf8EncodeChar_eq_iff.trans ⟨fun h => completes_start h hb, Completes.isEncoding⟩

end Decoding

end Almanac.Text
