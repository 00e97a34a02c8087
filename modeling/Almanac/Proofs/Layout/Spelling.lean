import Almanac.Proofs.Layout.Faults
/-!
# Spellings of the default format

A layout is the default one when it has the default format as its only alternative.  It can have
been written under either name and with blanks around it, but in no other way (`isDefault_iff`): two
bars would make a second alternative, and neither the names nor blanks have bars.  However it was
written, it reads and writes like the default layout, for only its alternatives do that.
-/

namespace Almanac.Layout

variable {spec : String} {l : Layout} {cs : List Char}

/-- The text is a name of the default format, with blanks around it or none. -/
def IsDefaultName (spec : String) : Prop :=
  String.ofList (Text.trim spec.toList) ∈ defaultNames

instance : Decidable (IsDefaultName spec) :=
  inferInstanceAs (Decidable (String.ofList (Text.trim spec.toList) ∈ defaultNames))

theorem pieces_of_no_bar (h : '|' ∉ cs) : pieces cs = (cs, []) := by
  induction cs with
  | nil => rfl
  | cons c cs ih =>
      rw [pieces, ih (List.not_mem_of_not_mem_cons h)]
      rintro cs' rfl -
      exact List.ne_of_not_mem_cons h rfl

theorem no_bar_of_isDefaultName (h : IsDefaultName spec) : '|' ∉ spec.toList := by
  obtain ⟨before, after, hbefore, hafter, hstart, htrim⟩ := Text.exists_blanks spec.toList
  have hblank : ∀ cs : List Char, (∀ c ∈ cs, Text.isBlank c = true) → '|' ∉ cs := by
    intro cs hcs hbar
    exact absurd (hcs _ hbar) (by decide)
  have hname : '|' ∉ (String.ofList (Text.trim spec.toList)).toList := by
    have hnames : ∀ name ∈ defaultNames, '|' ∉ name.toList := by decide
    exact hnames _ h
  rw [String.toList_ofList] at hname
  rw [hstart, htrim, List.mem_append, List.mem_append]
  rintro (hbar | hbar | hbar)
  · exact hblank before hbefore hbar
  · exact hname hbar
  · exact hblank after hafter hbar

theorem compilePiece_of_isDefaultName {offset : Nat} (h : IsDefaultName spec) :
    compilePiece spec offset spec.toList = .ok .dateOptionalTime := by
  have hne : Text.trim spec.toList ≠ [] := by
    intro hnil
    unfold IsDefaultName at h
    rw [hnil] at h
    exact absurd h (by decide)
  simp only [compilePiece]
  rw [if_neg hne]
  exact if_pos h

theorem isDefaultName_of_compilePiece {offset : Nat}
    (h : compilePiece spec offset spec.toList = .ok .dateOptionalTime) : IsDefaultName spec := by
  simp only [compilePiece] at h
  split at h
  · cases h
  · split at h
    · next hname => exact hname
    · obtain ⟨p, -, hp⟩ := map_eq_ok.mp (mapError_eq_ok.mp h)
      cases hp

theorem length_of_compilePieces : ∀ {pieces : List (List Char)} {offset : Nat}
    {alternatives : List Alternative}, compilePieces spec offset pieces = .ok alternatives →
      alternatives.length = pieces.length
  | [], _, _, h => by
      cases h
      rfl
  | _ :: pieces, _, _, h => by
      obtain ⟨first, -, h⟩ := bind_eq_ok.mp h
      obtain ⟨others, hothers, h⟩ := bind_eq_ok.mp h
      obtain rfl := pure_eq_ok.mp h
      rw [List.length_cons, List.length_cons, length_of_compilePieces hothers]

theorem spec_of_compile (h : compile spec = .ok l) : l.spec = spec := by
  obtain ⟨first, -, h⟩ := bind_eq_ok.mp h
  obtain ⟨others, -, h⟩ := bind_eq_ok.mp h
  obtain rfl := pure_eq_ok.mp h
  rfl

theorem isDefault_iff_eq : l.isDefault = true ↔ l.first = .dateOptionalTime ∧ l.others = [] := by
  rw [isDefault, decide_eq_true_eq, alternatives, List.cons.injEq]

theorem isDefault_iff (h : compile spec = .ok l) : l.isDefault = true ↔ IsDefaultName spec := by
  obtain ⟨first, hfirst, h⟩ := bind_eq_ok.mp h
  obtain ⟨others, hothers, h⟩ := bind_eq_ok.mp h
  obtain rfl := pure_eq_ok.mp h
  rw [isDefault_iff_eq]
  constructor
  · rintro ⟨rfl, rfl⟩
    have hnone : (pieces spec.toList).2 = [] :=
      List.length_eq_zero_iff.mp (length_of_compilePieces hothers).symm
    have hall := pieces_append spec.toList
    rw [hnone, barred, List.flatMap_nil, List.append_nil] at hall
    rw [hall] at hfirst
    exact isDefaultName_of_compilePiece hfirst
  · intro hname
    rw [pieces_of_no_bar (no_bar_of_isDefaultName hname)] at hfirst hothers
    rw [compilePiece_of_isDefaultName hname] at hfirst
    cases hfirst
    cases hothers
    exact ⟨rfl, rfl⟩

/-! ## Use -/

theorem read_of_isDefault (h : l.isDefault = true) (text : List Char) :
    l.read text = default.read text := by
  obtain ⟨hfirst, hothers⟩ := isDefault_iff_eq.mp h
  rw [read, hfirst, hothers]
  rfl

theorem write_of_isDefault (h : l.isDefault = true) (i : Instant) :
    l.write i = default.write i := by
  rw [write, (isDefault_iff_eq.mp h).1]
  rfl

theorem compile_defaultName : compile defaultName = .ok default :=
  toOption_eq_some.mp (by decide +kernel)

end Almanac.Layout
