import Almanac.Pattern.Reader
import Almanac.Proofs.Outcome
import Almanac.Proofs.Pattern.Runs
/-!
# The items of a compiled pattern

What compiling promises about the items: the precision of the pattern is the finest unit among them
(`finestUnit?_eq_some`), so a field of a finer unit is not there, and a fraction has three, six or
nine digits.  The segments that a text is read by have the same fields as the items, with the
literal characters between them run together.
-/

namespace Almanac.Pattern

variable {items : List Item} {kind : Field → Bool}

/-! ## Which fields a pattern has -/

theorem has_iff : has items kind = true ↔ ∃ k, .field k ∈ items ∧ kind k = true := by
  unfold has
  rw [List.any_eq_true]
  constructor
  · rintro ⟨item, hitem, h⟩
    cases item with
    | literal c => cases h
    | field k => exact ⟨k, hitem, h⟩
  · rintro ⟨k, hk, h⟩
    exact ⟨.field k, hk, h⟩

@[simp] theorem has_append (items items' : List Item) (kind : Field → Bool) :
    has (items ++ items') kind = (has items kind || has items' kind) :=
  List.any_append

@[simp] theorem has_literal (c : Char) (kind : Field → Bool) :
    has [.literal c] kind = false := rfl

@[simp] theorem has_field (k : Field) (kind : Field → Bool) : has [.field k] kind = kind k := by
  simp [has]

/-! ## The finest unit -/

theorem finer_eq (u v : CalendarUnit) : u.finer v = u ∨ u.finer v = v := by
  unfold CalendarUnit.finer
  split
  · exact Or.inr rfl
  · exact Or.inl rfl

/-- The finer of two units is their least upper bound. -/
theorem finer_le_iff {u v w : CalendarUnit} : u.finer v ≤ w ↔ u ≤ w ∧ v ≤ w := by
  unfold CalendarUnit.finer
  split
  · next h => exact ⟨fun hv => ⟨Nat.le_trans h hv, hv⟩, And.right⟩
  · next h =>
    have hvu : v ≤ u := Nat.le_of_lt (Nat.lt_of_not_le h)
    exact ⟨fun hu => ⟨hu, Nat.le_trans hvu hu⟩, And.left⟩

theorem finerOf_eq_none {u v : Option CalendarUnit} : finerOf u v = none ↔ u = none ∧ v = none := by
  cases u <;> cases v <;> simp [finerOf]

theorem eq_some_of_finerOf {u v : Option CalendarUnit} {p : CalendarUnit}
    (h : finerOf u v = some p) : u = some p ∨ v = some p := by
  cases u with
  | none => exact Or.inr h
  | some u =>
      cases v with
      | none => exact Or.inl h
      | some v =>
          rcases finer_eq u v with heq | heq
          · exact Or.inl (heq ▸ h)
          · exact Or.inr (heq ▸ h)

theorem finerOf_le_iff {u v : Option CalendarUnit} {p : CalendarUnit} :
    (∀ w, finerOf u v = some w → w ≤ p) ↔
      (∀ w, u = some w → w ≤ p) ∧ ∀ w, v = some w → w ≤ p := by
  cases u <;> cases v <;> simp [finerOf, finer_le_iff]

theorem foldl_finerOf {p : CalendarUnit} : ∀ (items : List Item) (finest : Option CalendarUnit),
    items.foldl (fun finest item => finerOf finest item.unit?) finest = some p →
      (finest = some p ∨ ∃ item ∈ items, item.unit? = some p) ∧
        (∀ u, finest = some u → u ≤ p) ∧ ∀ item ∈ items, ∀ v, item.unit? = some v → v ≤ p
  | [], finest, h => by
      refine ⟨Or.inl h, ?_, fun item hitem => absurd hitem List.not_mem_nil⟩
      intro u hu
      obtain rfl : u = p := Option.some.inj (hu.symm.trans h)
      exact Nat.le_refl _
  | item :: items, finest, h => by
      obtain ⟨hfound, hle, hall⟩ := foldl_finerOf items (finerOf finest item.unit?) h
      obtain ⟨hfinest, hitem⟩ := finerOf_le_iff.mp hle
      refine ⟨?_, hfinest, List.forall_mem_cons.mpr ⟨hitem, hall⟩⟩
      rcases hfound with hfiner | ⟨item', hmem, hunit⟩
      · rcases eq_some_of_finerOf hfiner with hfirst | hsecond
        · exact Or.inl hfirst
        · exact Or.inr ⟨item, List.mem_cons_self, hsecond⟩
      · exact Or.inr ⟨item', List.mem_cons_of_mem _ hmem, hunit⟩

/-- The finest unit of some items is the unit of one of them, and none has a finer one. -/
theorem finestUnit?_eq_some {p : CalendarUnit} (h : finestUnit? items = some p) :
    (∃ item ∈ items, item.unit? = some p) ∧ ∀ item ∈ items, ∀ v, item.unit? = some v → v ≤ p := by
  obtain ⟨hfound, -, hall⟩ := foldl_finerOf items none h
  rcases hfound with h | h
  · cases h
  · exact ⟨h, hall⟩

theorem foldl_finerOf_eq_none : ∀ {items : List Item} {finest : Option CalendarUnit},
    items.foldl (fun finest item => finerOf finest item.unit?) finest = none ↔
      finest = none ∧ ∀ item ∈ items, item.unit? = none
  | [], finest => by
      rw [List.foldl_nil]
      exact (and_iff_left (fun _ h => absurd h List.not_mem_nil)).symm
  | item :: items, finest => by
      rw [List.foldl_cons, foldl_finerOf_eq_none, finerOf_eq_none, List.forall_mem_cons, and_assoc]

theorem finestUnit?_eq_none : finestUnit? items = none ↔ ∀ item ∈ items, item.unit? = none := by
  rw [finestUnit?, foldl_finerOf_eq_none]
  exact and_iff_right rfl

/-! ## Compiling -/

theorem fractionDigits_cases (count : Nat) :
    Field.fractionDigits count = 3 ∨ Field.fractionDigits count = 6 ∨
      Field.fractionDigits count = 9 := by
  unfold Field.fractionDigits
  split
  · exact Or.inl rfl
  · split
    · exact Or.inr (Or.inl rfl)
    · exact Or.inr (Or.inr rfl)

/-- Only a run of `S` is a fraction, and it has three, six or nine digits. -/
theorem fraction_of_ofRun? {letter : Char} {count digits : Nat}
    (h : Field.ofRun? letter count = some (.fraction digits)) :
    digits = 3 ∨ digits = 6 ∨ digits = 9 := by
  cases names_iff.mpr h
  exact fractionDigits_cases count

/-- The fractions among some items have three, six or nine digits. -/
def FractionsFit (items : List Item) : Prop :=
  ∀ digits, .field (.fraction digits) ∈ items → digits = 3 ∨ digits = 6 ∨ digits = 9

theorem fractionsFit_of_parts {parts : List Part} (h : parts.mapM Part.item = .ok items) :
    FractionsFit items := by
  intro digits hmem
  obtain ⟨part, -, hpart⟩ := mem_of_mapM_eq_ok h hmem
  cases part with
  | literal c => cases hpart
  | unclosed rest => cases hpart
  | run letter count rest =>
      simp only [Part.item] at hpart
      split at hpart
      · next k hk =>
        cases hpart
        exact fraction_of_ofRun? hk
      · cases hpart

/-- What compiling promises. -/
structure Compiled (p : Pattern) : Prop where
  exists_unit : ∃ item ∈ p.items, item.unit? = some p.precision
  unit_le : ∀ item ∈ p.items, ∀ v, item.unit? = some v → v ≤ p.precision
  fraction : FractionsFit p.items

theorem items_of_compile {source : List Char} {p : Pattern} (h : compile source = .ok p) :
    (parts source).mapM Part.item = .ok p.items ∧ finestUnit? p.items = some p.precision := by
  obtain ⟨items, hitems, h⟩ := bind_eq_ok.mp h
  rw [mapError_eq_ok] at hitems
  cases hfinest : finestUnit? items with
  | none =>
      rw [hfinest] at h
      cases h
  | some precision =>
      simp only [hfinest] at h
      split at h
      · obtain rfl := pure_eq_ok.mp h
        exact ⟨hitems, hfinest⟩
      · cases h

theorem compile_compiled {source : List Char} {p : Pattern} (h : compile source = .ok p) :
    p.Compiled := by
  obtain ⟨hitems, hfinest⟩ := items_of_compile h
  obtain ⟨hunit, hle⟩ := finestUnit?_eq_some hfinest
  exact ⟨hunit, hle, fractionsFit_of_parts hitems⟩

/-- A pattern has no field of a unit that is finer than its precision. -/
theorem Compiled.has_eq_false {p : Pattern} (h : p.Compiled) {kind : Field → Bool}
    (hkind : ∀ k, kind k = true → ∃ v, k.unit? = some v ∧ ¬ v ≤ p.precision) :
    has p.items kind = false := by
  rw [← Bool.not_eq_true, has_iff]
  rintro ⟨k, hmem, hk⟩
  obtain ⟨v, hv, hle⟩ := hkind k hk
  exact hle (h.unit_le (.field k) hmem v hv)

/-! ## Segments -/

theorem field_mem_addItem {k : Field} {item : Item} {segs : List Segment} :
    .field k ∈ addItem item segs ↔ item = .field k ∨ .field k ∈ segs := by
  cases item with
  | field k' =>
      simp only [addItem, List.mem_cons, Segment.field.injEq, Item.field.injEq, eq_comm]
  | literal c =>
      simp only [reduceCtorEq, false_or]
      simp only [addItem]
      repeat' split
      all_goals simp

theorem field_mem_segments {k : Field} : .field k ∈ segments items ↔ .field k ∈ items := by
  unfold segments
  induction items with
  | nil => simp
  | cons item items ih =>
      rw [List.foldr_cons, field_mem_addItem, ih, List.mem_cons, eq_comm]

end Almanac.Pattern
