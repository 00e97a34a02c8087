import Mathlib.Data.List.Induction
import Almanac.Json.Value
/-!
# Records in the order of their names

The entries of a record are read in the order of their names.  Each is placed before the first with
a greater name, so of entries with different names all are kept and their names ascend.  There is
only one such order, and entries that ascend already are that order of any arrangement of theirs
(`sortedEntries_of_perm`).
-/

namespace Almanac.Json

variable {name : String} {value : Json} {entries ascending : List (String × Json)}

/-- The names of the entries ascend. -/
def Ascends (entries : List (String × Json)) : Prop := entries.Pairwise fun a b => a.1 < b.1

theorem place_perm (h : name ∉ entries.map Prod.fst) :
    (place name value entries).Perm ((name, value) :: entries) := by
  induction entries with
  | nil => exact .refl _
  | cons e entries ih =>
      obtain ⟨k, v⟩ := e
      obtain ⟨hne, hrest⟩ := List.ne_and_not_mem_of_not_mem_cons h
      rw [place]
      by_cases hlt : name < k
      · rw [if_pos hlt]
      · rw [if_neg hlt, if_neg hne]
        exact ((ih hrest).cons _).trans (.swap _ _ _)

theorem Ascends.place (h : name ∉ entries.map Prod.fst) (hentries : Ascends entries) :
    Ascends (place name value entries) := by
  induction entries with
  | nil => exact List.pairwise_singleton _ _
  | cons e entries ih =>
      obtain ⟨k, v⟩ := e
      obtain ⟨hne, hrest⟩ := List.ne_and_not_mem_of_not_mem_cons h
      obtain ⟨hk, hascends⟩ := List.pairwise_cons.mp hentries
      rw [Json.place]
      by_cases hlt : name < k
      · rw [if_pos hlt]
        refine List.pairwise_cons.mpr ⟨?_, hentries⟩
        intro d hd
        rcases List.mem_cons.mp hd with rfl | hd
        · exact hlt
        · exact String.lt_trans hlt (hk d hd)
      · have hgt : k < name := by
          by_contra hge
          exact hne (String.le_antisymm (String.not_lt.mp hge) (String.not_lt.mp hlt))
        rw [if_neg hlt, if_neg hne]
        refine List.pairwise_cons.mpr ⟨?_, ih hrest hascends⟩
        intro d hd
        rcases List.mem_cons.mp ((place_perm hrest).mem_iff.mp hd) with rfl | hd
        · exact hgt
        · exact hk d hd

theorem sortedEntries_perm (h : (entries.map Prod.fst).Nodup) :
    (sortedEntries entries).Perm entries ∧ Ascends (sortedEntries entries) := by
  induction entries using List.reverseRecOn with
  | nil => exact ⟨.refl _, .nil⟩
  | append_singleton entries e ih =>
      rw [List.map_append, List.map_singleton] at h
      obtain ⟨hnew, hentries⟩ :=
        List.nodup_cons.mp ((List.perm_append_singleton e.1 _).nodup_iff.mp h)
      obtain ⟨hperm, hascends⟩ := ih hentries
      have hplaced : e.1 ∉ (sortedEntries entries).map Prod.fst :=
        mt (hperm.map Prod.fst).mem_iff.mp hnew
      have hsorted : sortedEntries (entries ++ [e]) = place e.1 e.2 (sortedEntries entries) := by
        rw [sortedEntries, List.foldl_append]
        rfl
      rw [hsorted]
      refine ⟨?_, hascends.place hplaced⟩
      exact ((place_perm hplaced).trans (hperm.cons e)).trans (List.perm_append_singleton e _).symm

/-- Entries that ascend are the sorted order of any arrangement of theirs. -/
theorem sortedEntries_of_perm (hperm : entries.Perm ascending) (h : Ascends ascending) :
    sortedEntries entries = ascending := by
  have hdistinct : (ascending.map Prod.fst).Nodup :=
    List.pairwise_map.mpr (h.imp fun hlt => String.ne_of_lt hlt)
  obtain ⟨hsorted, hascends⟩ :=
    sortedEntries_perm ((hperm.map Prod.fst).nodup_iff.mpr hdistinct)
  refine (hsorted.trans hperm).eq_of_pairwise ?_ hascends h
  intro a b _ _ hab hba
  exact absurd hba (String.lt_asymm hab)

/-- What is missing from a record leaves the names of the rest in their order. -/
theorem pairwise_names {R : String → String → Prop} {fields : List (String × Option Json)}
    (h : (fields.map Prod.fst).Pairwise R) :
    ((fields.filterMap fun e => e.2.map fun v => (e.1, v)).map Prod.fst).Pairwise R := by
  refine List.pairwise_map.mpr ((List.pairwise_map.mp h).filterMap _ ?_)
  intro a b hab d hd e he
  obtain ⟨v, -, rfl⟩ := Option.map_eq_some_iff.mp hd
  obtain ⟨w, -, rfl⟩ := Option.map_eq_some_iff.mp he
  exact hab

theorem sortedEntries_record {fields ascending : List (String × Option Json)}
    (hperm : fields.Perm ascending) (h : (ascending.map Prod.fst).Pairwise (· < ·)) :
    sortedEntries (fields.filterMap fun e => e.2.map fun v => (e.1, v)) =
      ascending.filterMap fun e => e.2.map fun v => (e.1, v) :=
  sortedEntries_of_perm (hperm.filterMap _) (List.pairwise_map.mp (pairwise_names h))

end Almanac.Json
