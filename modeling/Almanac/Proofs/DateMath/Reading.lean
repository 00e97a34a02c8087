import Mathlib.Data.List.TakeWhile
import Almanac.DateMath.Text
import Almanac.Proofs.Outcome
import Almanac.Proofs.Text.Digits
/-!
# Operations that are read

Operations are read one after the other, each from what the one before has left.  The equivalences
below take a successful reading apart: a rounding is a slash and a unit word, an offset a sign,
digits and a unit word (`readOperation_eq_ok_iff`).  Two things about whole texts follow by
induction on the operations.  Reading does not depend on the case of letters
(`scanOperations_upper_iff`), and a slash anywhere in the text is a rounding among the operations
(`exists_round_of_slash`), for neither digits nor unit words have one.
-/

namespace Almanac.DateMath

variable {cs rest : List Char} {unit : CalendarUnit} {sign : Char} {op : Operation}
  {ops : List Operation}

/-! ## One operation -/

theorem readUnit_eq_ok_iff :
    readUnit cs = .ok (unit, rest) ↔
      cs.takeWhile Char.isAlpha ≠ [] ∧
        CalendarUnit.ofWord? (cs.takeWhile Char.isAlpha) = some unit ∧
        rest = cs.dropWhile Char.isAlpha := by
  unfold readUnit unitOf
  simp only [bind_eq_ok, pure_eq_ok, Prod.mk.injEq]
  constructor
  · rintro ⟨u, hu, rfl, rfl⟩
    split at hu
    · cases hu
    · next hne =>
      split at hu
      · next v hv =>
        cases hu
        exact ⟨hne, hv, rfl⟩
      · cases hu
  · rintro ⟨hne, hu, rfl⟩
    refine ⟨unit, ?_, rfl, rfl⟩
    rw [if_neg hne, hu]

theorem readAmount_eq_ok_iff {amount : Int64} :
    readAmount sign cs = .ok (amount, rest) ↔
      cs.takeWhile Char.isDigit ≠ [] ∧
        (∃ n, Word.fit? (Text.number (cs.takeWhile Char.isDigit)) = some n ∧
          amount = if sign = '-' then -n else n) ∧
        rest = cs.dropWhile Char.isDigit := by
  unfold readAmount amountOf
  simp only [bind_eq_ok, pure_eq_ok, Prod.mk.injEq]
  constructor
  · rintro ⟨a, ha, rfl, rfl⟩
    split at ha
    · cases ha
    · next hne =>
      split at ha
      · next n hn =>
        cases ha
        exact ⟨hne, ⟨n, hn, rfl⟩, rfl⟩
      · cases ha
  · rintro ⟨hne, ⟨n, hn, rfl⟩, rfl⟩
    refine ⟨_, ?_, rfl, rfl⟩
    rw [if_neg hne, hn]

/-- An operation as its reader takes it apart. -/
inductive Reads : List Char → Operation → List Char → Prop
  | round {cs rest : List Char} {unit : CalendarUnit} :
      readUnit cs = .ok (unit, rest) → Reads ('/' :: cs) (.round unit) rest
  | offset {sign : Char} {cs mid rest : List Char} {amount : Int64} {unit : CalendarUnit} :
      sign = '+' ∨ sign = '-' → readAmount sign cs = .ok (amount, mid) →
        readUnit mid = .ok (unit, rest) → Reads (sign :: cs) (.offset unit amount) rest

theorem readOffset_eq_ok_iff :
    readOffset sign cs = .ok (op, rest) ↔
      ∃ amount mid unit, readAmount sign cs = .ok (amount, mid) ∧
        readUnit mid = .ok (unit, rest) ∧ op = .offset unit amount := by
  unfold readOffset
  simp only [bind_eq_ok, pure_eq_ok, Prod.mk.injEq]
  constructor
  · rintro ⟨⟨amount, mid⟩, hamount, ⟨unit, rest'⟩, hunit, rfl, rfl⟩
    exact ⟨amount, mid, unit, hamount, hunit, rfl⟩
  · rintro ⟨amount, mid, unit, hamount, hunit, rfl⟩
    exact ⟨(amount, mid), hamount, (unit, rest), hunit, rfl, rfl⟩

theorem readOperation_eq_ok_iff :
    readOperation cs = .ok (op, rest) ↔ Reads cs op rest := by
  constructor
  · intro h
    unfold readOperation at h
    split at h
    · obtain ⟨⟨unit, rest'⟩, hunit, h⟩ := bind_eq_ok.mp h
      obtain ⟨rfl, rfl⟩ := Prod.mk.inj (pure_eq_ok.mp h)
      exact .round hunit
    · obtain ⟨amount, mid, unit, hamount, hunit, rfl⟩ := readOffset_eq_ok_iff.mp h
      exact .offset (Or.inl rfl) hamount hunit
    · obtain ⟨amount, mid, unit, hamount, hunit, rfl⟩ := readOffset_eq_ok_iff.mp h
      exact .offset (Or.inr rfl) hamount hunit
    · cases h
  · intro h
    cases h with
    | round hunit => exact bind_eq_ok.mpr ⟨_, hunit, rfl⟩
    | offset hsign hamount hunit =>
        rcases hsign with rfl | rfl
        · exact readOffset_eq_ok_iff.mpr ⟨_, _, _, hamount, hunit, rfl⟩
        · exact readOffset_eq_ok_iff.mpr ⟨_, _, _, hamount, hunit, rfl⟩

/-! ## All operations -/

theorem scanOperations_eq_ok_iff :
    scanOperations cs = .ok ops ↔
      (cs = [] ∧ ops = []) ∨
        ∃ op rest ops', Reads cs op rest ∧ scanOperations rest = .ok ops' ∧ ops = op :: ops' := by
  rw [scanOperations]
  by_cases hcs : cs = []
  · subst hcs
    simp only [if_true, Except.ok.injEq, true_and]
    constructor
    · exact fun h => Or.inl h.symm
    · rintro (h | ⟨op, rest, ops', h, -⟩)
      · exact h.symm
      · cases h
  · rw [if_neg hcs]
    simp only [hcs, false_and, false_or]
    constructor
    · intro h
      split at h
      · cases h
      · next r hr =>
        obtain ⟨ops', hops', rfl⟩ := map_eq_ok.mp h
        exact ⟨r.1, r.2, ops', readOperation_eq_ok_iff.mp hr, hops', rfl⟩
    · rintro ⟨op, rest, ops', hop, hops', rfl⟩
      have hr := readOperation_eq_ok_iff.mpr hop
      split
      · next slip hslip =>
        rw [hr] at hslip
        cases hslip
      · next r hr' =>
        obtain rfl := Except.ok.inj (hr.symm.trans hr')
        exact map_eq_ok.mpr ⟨ops', hops', rfl⟩

theorem scanOperations_eq_nil_iff : scanOperations cs = .ok [] ↔ cs = [] := by
  rw [scanOperations_eq_ok_iff]
  constructor
  · rintro (⟨hcs, -⟩ | ⟨op, rest, ops', -, -, hops⟩)
    · exact hcs
    · cases hops
  · exact fun hcs => Or.inl ⟨hcs, rfl⟩

theorem scanOperations_eq_cons_iff :
    scanOperations cs = .ok (op :: ops) ↔
      ∃ rest, Reads cs op rest ∧ scanOperations rest = .ok ops := by
  rw [scanOperations_eq_ok_iff]
  constructor
  · rintro (⟨-, hops⟩ | ⟨op', rest, ops', hop, hrest, hops⟩)
    · cases hops
    · obtain ⟨rfl, rfl⟩ := List.cons.inj hops
      exact ⟨rest, hop, hrest⟩
  · rintro ⟨rest, hop, hrest⟩
    exact Or.inr ⟨op, rest, ops, hop, hrest, rfl⟩

theorem Reads.length_lt (h : Reads cs op rest) : rest.length < cs.length :=
  length_lt_of_readOperation (readOperation_eq_ok_iff.mpr h)

/-! ## The case of letters -/

theorem takeWhile_upper {kind : Char → Bool} (h : ∀ c : Char, kind c.toUpper = kind c)
    (cs : List Char) :
    (Text.upper cs).takeWhile kind = Text.upper (cs.takeWhile kind) ∧
      (Text.upper cs).dropWhile kind = Text.upper (cs.dropWhile kind) := by
  have hcomp : kind ∘ Char.toUpper = kind := funext h
  unfold Text.upper
  rw [List.takeWhile_map, List.dropWhile_map, hcomp]
  exact ⟨rfl, rfl⟩

theorem ofWord?_upper (word : List Char) :
    CalendarUnit.ofWord? (Text.upper word) = CalendarUnit.ofWord? word := by
  simp only [CalendarUnit.ofWord?, Text.upper_upper]

theorem upper_eq_nil_iff : Text.upper cs = [] ↔ cs = [] := List.map_eq_nil_iff

theorem readUnit_upper_iff :
    readUnit (Text.upper cs) = .ok (unit, rest) ↔
      ∃ rest', readUnit cs = .ok (unit, rest') ∧ rest = Text.upper rest' := by
  obtain ⟨htake, hdrop⟩ := takeWhile_upper Text.isAlpha_toUpper cs
  simp only [readUnit_eq_ok_iff, htake, hdrop, ofWord?_upper, ne_eq, upper_eq_nil_iff]
  constructor
  · rintro ⟨hne, hunit, rfl⟩
    exact ⟨_, ⟨hne, hunit, rfl⟩, rfl⟩
  · rintro ⟨_, ⟨hne, hunit, rfl⟩, rfl⟩
    exact ⟨hne, hunit, rfl⟩

theorem readAmount_upper_iff {amount : Int64} :
    readAmount sign (Text.upper cs) = .ok (amount, rest) ↔
      ∃ rest', readAmount sign cs = .ok (amount, rest') ∧ rest = Text.upper rest' := by
  obtain ⟨htake, hdrop⟩ := takeWhile_upper Text.isDigit_toUpper cs
  have hdigits : Text.upper (cs.takeWhile Char.isDigit) = cs.takeWhile Char.isDigit :=
    Text.upper_eq_self fun c hc => Text.toUpper_of_isDigit (List.mem_takeWhile_imp hc)
  simp only [readAmount_eq_ok_iff, htake, hdrop, hdigits]
  constructor
  · rintro ⟨hne, hamount, rfl⟩
    exact ⟨_, ⟨hne, hamount, rfl⟩, rfl⟩
  · rintro ⟨_, ⟨hne, hamount, rfl⟩, rfl⟩
    exact ⟨hne, hamount, rfl⟩

/-- A character that is no letter is the same in upper case, and from nothing else. -/
theorem cons_eq_upper {c : Char} (hc : c.isAlpha = false) (h : c :: rest = Text.upper cs) :
    ∃ cs', cs = c :: cs' ∧ rest = Text.upper cs' := by
  cases cs with
  | nil => cases h
  | cons d cs' =>
      obtain ⟨hd, hrest⟩ := List.cons.inj h
      have halpha : d.isAlpha = false := by
        rw [← Text.isAlpha_toUpper d, ← hd, hc]
      rw [Text.toUpper_of_not_isAlpha halpha] at hd
      exact ⟨cs', by rw [hd], hrest⟩

theorem reads_upper_iff :
    Reads (Text.upper cs) op rest ↔ ∃ rest', Reads cs op rest' ∧ rest = Text.upper rest' := by
  constructor
  · intro h
    generalize hcs : Text.upper cs = letters at h
    cases h with
    | round hunit =>
        obtain ⟨cs', rfl, rfl⟩ := cons_eq_upper (by decide) hcs.symm
        obtain ⟨rest', hunit', rfl⟩ := readUnit_upper_iff.mp hunit
        exact ⟨rest', .round hunit', rfl⟩
    | offset hsign hamount hunit =>
        obtain ⟨cs', rfl, rfl⟩ :=
          cons_eq_upper (by rcases hsign with rfl | rfl <;> decide) hcs.symm
        obtain ⟨mid', hamount', rfl⟩ := readAmount_upper_iff.mp hamount
        obtain ⟨rest', hunit', rfl⟩ := readUnit_upper_iff.mp hunit
        exact ⟨rest', .offset hsign hamount' hunit', rfl⟩
  · rintro ⟨rest', h, rfl⟩
    cases h with
    | round hunit => exact .round (readUnit_upper_iff.mpr ⟨_, hunit, rfl⟩)
    | offset hsign hamount hunit =>
        have hread := Reads.offset hsign (readAmount_upper_iff.mpr ⟨_, hamount, rfl⟩)
          (readUnit_upper_iff.mpr ⟨_, hunit, rfl⟩)
        -- the sign is no letter
        rcases hsign with rfl | rfl
        · exact hread
        · exact hread

theorem scanOperations_upper_iff :
    scanOperations (Text.upper cs) = .ok ops ↔ scanOperations cs = .ok ops := by
  induction ops generalizing cs with
  | nil => rw [scanOperations_eq_nil_iff, scanOperations_eq_nil_iff, upper_eq_nil_iff]
  | cons op ops ih =>
      simp only [scanOperations_eq_cons_iff, reads_upper_iff]
      constructor
      · rintro ⟨_, ⟨rest, hop, rfl⟩, hrest⟩
        exact ⟨rest, hop, ih.mp hrest⟩
      · rintro ⟨rest, hop, hrest⟩
        exact ⟨_, ⟨rest, hop, rfl⟩, ih.mpr hrest⟩

/-! ## Slashes -/

theorem mem_dropWhile_of_mem {kind : Char → Bool} {c : Char} (h : c ∈ cs)
    (hc : kind c = false) : c ∈ cs.dropWhile kind := by
  rw [← List.takeWhile_append_dropWhile (p := kind) (l := cs)] at h
  rcases List.mem_append.mp h with h | h
  · rw [List.mem_takeWhile_imp h] at hc
    cases hc
  · exact h

theorem Reads.slash_mem (h : Reads cs op rest) (hslash : '/' ∈ cs) :
    (∃ unit, op = .round unit) ∨ '/' ∈ rest := by
  cases h with
  | round hunit => exact Or.inl ⟨_, rfl⟩
  | offset hsign hamount hunit =>
      obtain ⟨-, -, rfl⟩ := readAmount_eq_ok_iff.mp hamount
      obtain ⟨-, -, rfl⟩ := readUnit_eq_ok_iff.mp hunit
      refine Or.inr (mem_dropWhile_of_mem (mem_dropWhile_of_mem ?_ rfl) rfl)
      rcases List.mem_cons.mp hslash with rfl | hslash
      · rcases hsign with h | h <;> cases h
      · exact hslash

theorem exists_round_of_slash (h : scanOperations cs = .ok ops) (hslash : '/' ∈ cs) :
    ∃ unit, .round unit ∈ ops := by
  induction ops generalizing cs with
  | nil =>
      obtain rfl := scanOperations_eq_nil_iff.mp h
      cases hslash
  | cons op ops ih =>
      obtain ⟨rest, hop, hrest⟩ := scanOperations_eq_cons_iff.mp h
      rcases hop.slash_mem hslash with ⟨unit, rfl⟩ | hslash
      · exact ⟨unit, List.mem_cons_self⟩
      · obtain ⟨unit, hunit⟩ := ih hrest hslash
        exact ⟨unit, List.mem_cons_of_mem op hunit⟩

end Almanac.DateMath
