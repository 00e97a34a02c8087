import Mathlib.Data.List.Infix
import Almanac.Proofs.Text.Encoding
/-!
# Bytes as text

`ofBytes` reads one byte at a time and keeps a state, while what it should give is said of the bytes
as a whole: `StandsFor` cuts them into characters, which stay, and into malformed parts, each as
long as it can be, which become one replacement each.  The two are one (`standsFor_iff`), so the
text that bytes stand for is determined by that description alone, and the bytes of a text stand for
the text (`ofBytes_toBytes`).

A part is malformed exactly when the machine is stuck within a character (`Stuck`).  It does not
look ahead: the byte at which it sticks has been taken from the input already, and ends one
replacement and begins what comes next in one step.
-/

namespace Almanac.Text

/-! ## Bytes cut into characters and malformed parts -/

/-- More bytes may follow to make a character. -/
def BeginsChar (bytes : List UInt8) : Prop := ∃ c : Char, bytes <+: String.utf8EncodeChar c

/-- No character is written at the part, and it is the longest beginning of a character there, or a
single byte if none begins there. -/
structure IsMalformed (part rest : List UInt8) : Prop where
  ne_nil : part ≠ []
  unwritten : ∀ c : Char, ¬ String.utf8EncodeChar c <+: part ++ rest
  begins : part.length = 1 ∨ BeginsChar part
  longest : ∀ bytes, bytes <+: part ++ rest → BeginsChar bytes → bytes.length ≤ part.length

/-- The characters that bytes stand for, with a replacement for each malformed part. -/
inductive StandsFor : List UInt8 → List Char → Prop
  | nil : StandsFor [] []
  | char {c : Char} {rest : List UInt8} {cs : List Char} :
      StandsFor rest cs → StandsFor (String.utf8EncodeChar c ++ rest) (c :: cs)
  | malformed {part rest : List UInt8} {cs : List Char} :
      IsMalformed part rest → StandsFor rest cs → StandsFor (part ++ rest) (replacement :: cs)

variable {c : Char} {b : UInt8} {bytes part taken tail rest : List UInt8} {cs : List Char}

/-! ## Stuck within a character -/

namespace Decoding

variable {d : Decoding}

/-- Fewer bytes come than the state waits for: it takes the part, and the rest does not go on. -/
inductive Stuck : Decoding → List UInt8 → List UInt8 → Prop
  | here {bits left low high : Nat} {rest : List UInt8} :
      (∀ b ∈ rest.head?, ¬ (low ≤ b.toNat ∧ b.toNat ≤ high)) →
        Stuck (.within bits left low high) [] rest
  | more {bits left low high : Nat} {b : UInt8} {part rest : List UInt8} :
      low ≤ b.toNat → b.toNat ≤ high →
        Stuck (.within (bits * 64 + b.toNat % 64) left 0x80 0xBF) part rest →
          Stuck (.within bits (left + 1) low high) (b :: part) rest

theorem completes_or_stuck (left : Nat) : ∀ (bits low high : Nat) (bytes : List UInt8),
    (∃ taken rest c, taken ++ rest = bytes ∧ Completes (.within bits left low high) taken c) ∨
      ∃ part rest, part ++ rest = bytes ∧ Stuck (.within bits left low high) part rest := by
  induction left with
  | zero =>
      intro bits low high bytes
      cases bytes with
      | nil => exact .inr ⟨[], [], rfl, .here nofun⟩
      | cons b bytes =>
          by_cases hb : low ≤ b.toNat ∧ b.toNat ≤ high
          · exact .inl ⟨[b], bytes, _, rfl, .last hb.1 hb.2 rfl⟩
          · exact .inr ⟨[], b :: bytes, rfl, .here (by simpa using hb)⟩
  | succ left ih =>
      intro bits low high bytes
      cases bytes with
      | nil => exact .inr ⟨[], [], rfl, .here nofun⟩
      | cons b bytes =>
          by_cases hb : low ≤ b.toNat ∧ b.toNat ≤ high
          · rcases ih (bits * 64 + b.toNat % 64) 0x80 0xBF bytes with
              ⟨taken, rest, c, rfl, h⟩ | ⟨part, rest, rfl, h⟩
            · exact .inl ⟨b :: taken, rest, c, rfl, .more hb.1 hb.2 h⟩
            · exact .inr ⟨b :: part, rest, rfl, .more hb.1 hb.2 h⟩
          · exact .inr ⟨[], b :: bytes, rfl, .here (by simpa using hb)⟩

theorem step_refused {bits left low high n : Nat} (h : ¬ (low ≤ n ∧ n ≤ high)) :
    step n (.within bits left low high) = (replacement :: (start n).1, (start n).2) := by
  unfold step
  exact if_neg h

/-- What a stuck state took becomes one replacement, and the rest is read as if it came first. -/
theorem Stuck.run_append (h : Stuck d part rest) :
    d.run (part ++ rest) = replacement :: fresh.run rest := by
  induction h with
  | @here bits left low high rest hrest =>
      cases rest with
      | nil => rfl
      | cons b rest =>
          have hb : ¬ (low ≤ b.toNat ∧ b.toNat ≤ high) := hrest b rfl
          rw [List.nil_append, run, step_refused hb]
          rfl
  | more hlow hhigh _ ih =>
      rw [List.cons_append, run, step, if_pos ⟨hlow, hhigh⟩]
      exact ih

/-- What a stuck state takes is the longest of what it waits for, and not all of it. -/
theorem Stuck.longest (h : Stuck d part rest) (htaken : taken <+: part ++ rest)
    (hcompletes : Completes d (taken ++ tail) c) : taken.length ≤ part.length ∧ tail ≠ [] := by
  induction h generalizing taken with
  | @here bits left low high rest hrest =>
      cases taken with
      | nil =>
          refine ⟨Nat.le_refl 0, ?_⟩
          rintro rfl
          cases hcompletes
      | cons b taken =>
          exfalso
          obtain ⟨rest, rfl⟩ := htaken
          exact hrest b rfl hcompletes.head
  | more _ _ _ ih =>
      cases taken with
      | nil =>
          refine ⟨Nat.zero_le _, ?_⟩
          rintro rfl
          cases hcompletes
      | cons b taken =>
          obtain ⟨rfl, htail⟩ := List.cons_prefix_cons.mp htaken
          cases hcompletes with
          | more _ _ hcompletes =>
              obtain ⟨hle, hne⟩ := ih htail hcompletes
              exact ⟨Nat.succ_le_succ hle, hne⟩

theorem Stuck.exists_completes (h : Stuck d part rest) (hd : d.IsWaiting) :
    ∃ tail c, Completes d (part ++ tail) c := by
  induction h with
  | here _ => exact Decoding.exists_completes _ _ _ _ hd
  | more hlow hhigh _ ih =>
      obtain ⟨tail, c, htail⟩ := ih ⟨by decide, by decide⟩
      exact ⟨tail, c, .more hlow hhigh htail⟩

end Decoding

/-! ## Malformed parts -/

open Decoding

theorem beginsChar_cons_iff (hb : 0x7F < b.toNat) :
    BeginsChar (b :: bytes) ↔ ∃ tail c, Completes (start b.toNat).2 (bytes ++ tail) c := by
  constructor
  · rintro ⟨c, tail, h⟩
    exact ⟨tail, c, (utf8EncodeChar_eq_cons_iff hb).mp h.symm⟩
  · rintro ⟨tail, c, h⟩
    exact ⟨c, tail, ((utf8EncodeChar_eq_cons_iff hb).mpr h).symm⟩

theorem exists_completes_of_prefix (hb : 0x7F < b.toNat)
    (h : String.utf8EncodeChar c <+: b :: bytes) :
    ∃ taken, taken <+: bytes ∧ Completes (start b.toNat).2 taken c := by
  obtain ⟨b', taken, hc⟩ := List.exists_cons_of_ne_nil (String.utf8EncodeChar_ne_nil (c := c))
  rw [hc] at h
  obtain ⟨rfl, htaken⟩ := List.cons_prefix_cons.mp h
  exact ⟨taken, htaken, (utf8EncodeChar_eq_cons_iff hb).mp hc⟩

theorem isMalformed_single (hb : 0x7F < b.toNat) (h : (start b.toNat).2 = .fresh)
    (rest : List UInt8) : IsMalformed [b] rest where
  ne_nil := List.cons_ne_nil b []
  unwritten c hc := by
    obtain ⟨taken, -, htaken⟩ := exists_completes_of_prefix hb hc
    rw [h] at htaken
    exact not_completes_fresh htaken
  begins := .inl rfl
  longest more hmore hbegins := by
    cases more with
    | nil => exact Nat.zero_le 1
    | cons b' more =>
        obtain ⟨rfl, -⟩ := List.cons_prefix_cons.mp hmore
        obtain ⟨tail, c, hc⟩ := (beginsChar_cons_iff hb).mp hbegins
        rw [h] at hc
        exact absurd hc not_completes_fresh

theorem isMalformed_stuck (hb : 0x7F < b.toNat) (hwaits : (start b.toNat).2.IsWaiting)
    (h : Stuck (start b.toNat).2 part rest) : IsMalformed (b :: part) rest where
  ne_nil := List.cons_ne_nil b part
  unwritten c hc := by
    obtain ⟨taken, hprefix, htaken⟩ := exists_completes_of_prefix hb hc
    rw [← List.append_nil taken] at htaken
    exact (h.longest hprefix htaken).2 rfl
  begins := .inr ((beginsChar_cons_iff hb).mpr (h.exists_completes hwaits))
  longest more hmore hbegins := by
    cases more with
    | nil => exact Nat.zero_le _
    | cons b' more =>
        obtain ⟨rfl, hprefix⟩ := List.cons_prefix_cons.mp hmore
        obtain ⟨tail, c, hc⟩ := (beginsChar_cons_iff hb).mp hbegins
        exact Nat.succ_le_succ (h.longest hprefix hc).1

/-- A malformed part is as long as any other in its place. -/
theorem IsMalformed.length_le {part' rest' : List UInt8} (h : IsMalformed part rest)
    (h' : IsMalformed part' rest') (hsame : part ++ rest = part' ++ rest') :
    part.length ≤ part'.length := by
  rcases h.begins with hone | hbegins
  · rw [hone]
    exact List.length_pos_of_ne_nil h'.ne_nil
  · exact h'.longest part (hsame ▸ List.prefix_append part rest) hbegins

/-! ## The text that bytes stand for -/

theorem ofBytes_cons (b : UInt8) (bytes : List UInt8) :
    ofBytes (b :: bytes) = (start b.toNat).1 ++ (start b.toNat).2.run bytes := rfl

theorem ofBytes_char (c : Char) (rest : List UInt8) :
    ofBytes (String.utf8EncodeChar c ++ rest) = c :: ofBytes rest := by
  obtain ⟨b, bytes, h⟩ := List.exists_cons_of_ne_nil (String.utf8EncodeChar_ne_nil (c := c))
  rw [h, List.cons_append, ofBytes_cons]
  rcases start_cases b.toNat with ⟨hb, hstart⟩ | ⟨hb, hstart | ⟨hstart, -⟩⟩
  · obtain ⟨-, hc⟩ | h := utf8EncodeChar_eq_iff.mp h
    · rw [hstart, hc, c.ofNat_toNat]
      rfl
    all_goals omega
  · rw [utf8EncodeChar_eq_cons_iff hb, hstart] at h
    exact absurd h not_completes_fresh
  · rw [utf8EncodeChar_eq_cons_iff hb] at h
    rw [hstart]
    exact h.run_append

/-- Bytes begin with a character that is read, or with a malformed part that is replaced. -/
theorem exists_cut (hne : bytes ≠ []) :
    (∃ c rest, String.utf8EncodeChar c ++ rest = bytes) ∨
      ∃ part rest, part ++ rest = bytes ∧ IsMalformed part rest ∧
        ofBytes bytes = replacement :: ofBytes rest := by
  obtain ⟨b, bytes, rfl⟩ := List.exists_cons_of_ne_nil hne
  -- the first byte is a character, begins none, or opens a character of more bytes
  rcases start_cases b.toNat with ⟨hb, -⟩ | ⟨hb, hstart | ⟨hstart, hwaits⟩⟩
  · have hnumber : (Char.ofNat b.toNat).toNat = b.toNat := toNat_of_ofNat rfl (by omega)
    have hc : String.utf8EncodeChar (Char.ofNat b.toNat) = [b] :=
      utf8EncodeChar_eq_iff.mpr (.one (hnumber.symm ▸ hb) hnumber.symm)
    exact .inl ⟨Char.ofNat b.toNat, bytes, by rw [hc]; rfl⟩
  · refine .inr ⟨[b], bytes, rfl, isMalformed_single hb (by rw [hstart]) bytes, ?_⟩
    rw [ofBytes_cons, hstart]
    rfl
  · cases hopen : (start b.toNat).2 with
    | fresh =>
        rw [hopen] at hwaits
        exact absurd hwaits id
    | within bits left low high =>
        rcases completes_or_stuck left bits low high bytes with
          ⟨taken, rest, c, rfl, h⟩ | ⟨part, rest, rfl, h⟩
        · refine .inl ⟨c, rest, ?_⟩
          rw [(utf8EncodeChar_eq_cons_iff hb).mpr (hopen ▸ h)]
          rfl
        · refine .inr ⟨b :: part, rest, rfl, isMalformed_stuck hb hwaits (hopen ▸ h), ?_⟩
          rw [ofBytes_cons, hstart, hopen]
          exact h.run_append

theorem ofBytes_malformed (h : IsMalformed part rest) :
    ofBytes (part ++ rest) = replacement :: ofBytes rest := by
  have hne : part ++ rest ≠ [] := fun hnil => h.ne_nil (List.append_eq_nil_iff.mp hnil).1
  rcases exists_cut hne with ⟨c, rest', hsame⟩ | ⟨part', rest', hsame, h', hread⟩
  · exact absurd (hsame ▸ List.prefix_append _ rest') (h.unwritten c)
  · have hlength : part'.length = part.length :=
      Nat.le_antisymm (h'.length_le h hsame) (h.length_le h' hsame.symm)
    rw [hread, (List.append_inj hsame hlength).2]

theorem standsFor_ofBytes (bytes : List UInt8) : StandsFor bytes (ofBytes bytes) := by
  induction hlength : bytes.length using Nat.strongRecOn generalizing bytes with
  | ind n ih =>
      subst hlength
      by_cases hne : bytes = []
      · subst hne
        exact .nil
      · rcases exists_cut hne with ⟨c, rest, rfl⟩ | ⟨part, rest, rfl, h, hread⟩
        · have hpos := List.length_pos_of_ne_nil (String.utf8EncodeChar_ne_nil (c := c))
          rw [ofBytes_char]
          exact .char (ih rest.length (by rw [List.length_append]; omega) rest rfl)
        · have hpos := List.length_pos_of_ne_nil h.ne_nil
          rw [hread]
          exact .malformed h (ih rest.length (by rw [List.length_append]; omega) rest rfl)

/-- The characters that bytes stand for are those that they are read as. -/
theorem standsFor_iff : StandsFor bytes cs ↔ ofBytes bytes = cs := by
  constructor
  · intro h
    induction h with
    | nil => rfl
    | char _ ih => rw [ofBytes_char, ih]
    | malformed h _ ih => rw [ofBytes_malformed h, ih]
  · rintro rfl
    exact standsFor_ofBytes bytes

theorem ofBytes_toBytes (cs : List Char) : ofBytes (toBytes cs) = cs := by
  induction cs with
  | nil => rfl
  | cons c cs ih =>
      show ofBytes (String.utf8EncodeChar c ++ toBytes cs) = c :: cs
      rw [ofBytes_char, ih]

theorem toBytes_toList (t : String) : toBytes t.toList = t.toUTF8.data.toList := by
  rw [String.toUTF8_eq_toByteArray, ← String.utf8Encode_toList, List.utf8Encode,
    List.toList_data_toByteArray, toBytes]

end Almanac.Text
