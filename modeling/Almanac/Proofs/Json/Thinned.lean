import Mathlib.Data.List.Nodup
import Almanac.Proofs.Json.RoundTrip
import Almanac.Proofs.Outcome
/-!
# Records without some of their null entries

What may be missing is written as null, and another writer may leave it out instead.  A value is
thinned (`Thinned`) by leaving out entries of its records that are null, any of them and at any
depth.  A member of a record is found in the thinned record with its thinned value, or it was null
and nothing is found (`KeepsEntries.find?`).  Thinning opens no new levels, so thinned values are read
back from their text like the others.
-/

namespace Almanac.Json

variable {name : String} {j j' v : Json} {items : List Json}
  {entries entries' : List (String × Json)}

/-- Some null entries are left out, and the values of the others are related. -/
inductive KeepsEntries (R : Json → Json → Prop) :
    List (String × Json) → List (String × Json) → Prop
  | nil : KeepsEntries R [] []
  | keep {name : String} {j j' : Json} {entries entries' : List (String × Json)} :
      R j j' → KeepsEntries R entries entries' →
        KeepsEntries R ((name, j) :: entries) ((name, j') :: entries')
  | drop {name : String} {entries entries' : List (String × Json)} :
      KeepsEntries R entries entries' → KeepsEntries R ((name, .null) :: entries) entries'

/-- The value without some null entries of its records. -/
inductive Thinned : Json → Json → Prop
  | same (j : Json) : Thinned j j
  | arr {items items' : List Json} : List.Forall₂ Thinned items items' →
      Thinned (.arr items) (.arr items')
  | obj {entries entries' : List (String × Json)} : KeepsEntries Thinned entries entries' →
      Thinned (.obj entries) (.obj entries')

/-! ## What a thinned value looks like -/

theorem keepsEntries_same (entries : List (String × Json)) :
    KeepsEntries Thinned entries entries := by
  induction entries with
  | nil => exact .nil
  | cons e entries ih => exact .keep (.same e.2) ih

theorem thinned_leaf (h : IsLeaf j) (hj : Thinned j j') : j' = j := by
  cases hj with
  | same => rfl
  | arr => cases h
  | obj => cases h

theorem thinned_arr (h : Thinned (.arr items) j) :
    ∃ items', j = .arr items' ∧ List.Forall₂ Thinned items items' := by
  cases h with
  | same => exact ⟨items, rfl, List.forall₂_same.mpr fun j _ => .same j⟩
  | arr hitems => exact ⟨_, rfl, hitems⟩

theorem thinned_obj (h : Thinned (.obj entries) j) :
    ∃ entries', j = .obj entries' ∧ KeepsEntries Thinned entries entries' := by
  cases h with
  | same => exact ⟨entries, rfl, keepsEntries_same entries⟩
  | obj hentries => exact ⟨_, rfl, hentries⟩

/-! ## Looking up members -/

theorem find?_cons (name name' : String) (v : Json) (entries : List (String × Json)) :
    find? ((name, v) :: entries) name' =
      (find? entries name').or (if name' = name then some v else none) := by
  rw [find?, List.reverse_cons, List.lookup_append, find?]
  congr 1
  by_cases h : name' = name
  · simp [h]
  · simp [h]

theorem find?_eq_none (h : name ∉ entries.map Prod.fst) : find? entries name = none := by
  rw [find?, List.lookup_eq_none_iff]
  intro e he
  rw [bne_iff_ne]
  rintro rfl
  exact h (List.mem_map.mpr ⟨e, List.mem_reverse.mp he, rfl⟩)

theorem KeepsEntries.names {R : Json → Json → Prop} (h : KeepsEntries R entries entries') :
    (entries'.map Prod.fst).Sublist (entries.map Prod.fst) := by
  induction h with
  | nil => exact .slnil
  | keep _ _ ih => exact ih.cons_cons _
  | drop _ ih => exact ih.cons _

/-- A member is found with its thinned value, or it was null and nothing is found. -/
theorem KeepsEntries.find? (h : KeepsEntries Thinned entries entries')
    (hnames : (entries.map Prod.fst).Nodup) (hv : (name, v) ∈ entries) :
    Thinned v ((find? entries' name).getD .null) := by
  induction h with
  | nil => cases hv
  | @keep name' j j' entries entries' hj hentries ih =>
      obtain ⟨hfirst, hrest⟩ := List.nodup_cons.mp hnames
      rw [find?_cons]
      rcases List.mem_cons.mp hv with heq | hmem
      · obtain ⟨rfl, rfl⟩ := Prod.mk.inj heq
        have hnone : Json.find? entries' name = none :=
          find?_eq_none fun h => hfirst (hentries.names.subset h)
        rw [hnone, if_pos rfl]
        exact hj
      · have hne : name ≠ name' := by
          rintro rfl
          exact hfirst (List.mem_map.mpr ⟨_, hmem, rfl⟩)
        rw [if_neg hne, Option.or_none]
        exact ih hrest hmem
  | @drop name' entries entries' hentries ih =>
      obtain ⟨hfirst, hrest⟩ := List.nodup_cons.mp hnames
      rcases List.mem_cons.mp hv with heq | hmem
      · obtain ⟨rfl, rfl⟩ := Prod.mk.inj heq
        rw [find?_eq_none fun h => hfirst (hentries.names.subset h)]
        exact .same .null
      · exact ih hrest hmem

/-! ## Thinned values in text -/

theorem KeepsEntries.forall_mem {R : Json → Json → Prop} {p q : Json → Prop}
    (h : KeepsEntries R entries entries') (hR : ∀ j j', R j j' → p j → q j')
    (hp : ∀ e ∈ entries, p e.2) : ∀ e ∈ entries', q e.2 := by
  induction h with
  | nil => exact nofun
  | keep hj _ ih =>
      obtain ⟨hfirst, hrest⟩ := List.forall_mem_cons.mp hp
      exact List.forall_mem_cons.mpr ⟨hR _ _ hj hfirst, ih hrest⟩
  | drop _ ih => exact ih (List.forall_mem_cons.mp hp).2

theorem Fits.thinned : ∀ {depth : Nat} {j j' : Json}, Fits depth j → Thinned j j' → Fits depth j'
  | 0, _, _, h, hj => by
      rwa [thinned_leaf h hj]
  | depth + 1, .arr items, j', h, hj => by
      obtain ⟨items', rfl, hitems⟩ := thinned_arr hj
      intro j' hj'
      obtain ⟨j, hmem, hj⟩ := mem_of_forall₂ hitems.flip hj'
      exact Fits.thinned (h j hmem) hj
  | depth + 1, .obj entries, j', h, hj => by
      obtain ⟨entries', rfl, hentries⟩ := thinned_obj hj
      exact hentries.forall_mem (fun j j' hj hfits => Fits.thinned hfits hj) h
  | depth + 1, .null, _, h, hj => by rwa [thinned_leaf .null hj]
  | depth + 1, .bool b, _, h, hj => by rwa [thinned_leaf (.bool b) hj]
  | depth + 1, .int n, _, h, hj => by rwa [thinned_leaf h hj]
  | depth + 1, .str s, _, h, hj => by rwa [thinned_leaf (.str s) hj]

end Almanac.Json
