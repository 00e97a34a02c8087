import Almanac.Proofs.Json.RoundTrip
import Almanac.Proofs.Mapping
/-!
# A mapping is read back as it is written

The settings that are given are written in their fixed order and read in the order of their names.
Both are arrangements of the same settings (`Setting.all_perm`), and setting them one by one, in
any order, fills an empty mapping.  In text no name is written twice, so that the check for
repeated names passes.
-/

namespace Almanac.Mapping

variable {m : Mapping}

/-! ## Settings with their values -/

/-- The value of a setting as it is written, if it is given. -/
def value? (m : Mapping) : Setting → Option Json
  | .kind => m.kind.map .str
  | .format => m.format.map .str
  | .scale => m.scale.map fun s => .str s.name
  | .nullValue => m.nullValue.map .str
  | .precisionStep => m.precisionStep.map fun n => .int n.toNat
  | .roundUpperInclusive => m.roundUpperInclusive.map .bool
  | .roundCeil => m.roundCeil.map .bool
  | .parseUpperInclusive => m.parseUpperInclusive.map .bool

/-- A setting by its name, with its value. -/
def entry (m : Mapping) (s : Setting) : String × Option Json := (s.name, m.value? s)

theorem toJson_eq (m : Mapping) : m.toJson = .record (Setting.all.map m.entry) := rfl

/-- All settings in the order of their names. -/
def Setting.ascending : List Setting :=
  [.format, .nullValue, .scale, .parseUpperInclusive, .precisionStep, .roundCeil,
    .roundUpperInclusive, .kind]

theorem Setting.all_perm : all.Perm ascending := by decide

theorem Setting.ascending_names : (ascending.map name).Pairwise (· < ·) := by decide

/-! ## Reading back -/

theorem setGiven_nullValue (h : m.nullValue = none) (o : Option String) :
    m.setGiven (Setting.nullValue.name, o.map .str) = .ok { m with nullValue := o } :=
  setGiven_eq .nullValue .str (fun o => { m with nullValue := o }) o (by rw [← h]) fun _ => rfl

theorem setGiven_roundCeil (h : m.roundCeil = none) (o : Option Bool) :
    m.setGiven (Setting.roundCeil.name, o.map .bool) = .ok { m with roundCeil := o } :=
  setGiven_eq .roundCeil .bool (fun o => { m with roundCeil := o }) o (by rw [← h]) fun _ => rfl

theorem setGiven_parseUpperInclusive (h : m.parseUpperInclusive = none) (o : Option Bool) :
    m.setGiven (Setting.parseUpperInclusive.name, o.map .bool) =
      .ok { m with parseUpperInclusive := o } :=
  setGiven_eq .parseUpperInclusive .bool (fun o => { m with parseUpperInclusive := o }) o
    (by rw [← h]) fun _ => rfl

theorem ofJson_toJson (m : Mapping) : Mapping.ofJson m.toJson = .ok m := by
  have hperm : (Setting.all.map m.entry).Perm (Setting.ascending.map m.entry) :=
    Setting.all_perm.map _
  have hascending : ((Setting.ascending.map m.entry).map Prod.fst).Pairwise (· < ·) :=
    Setting.ascending_names
  have hfill : (Setting.ascending.map m.entry).foldlM setGiven {} = .ok m := by
    simp only [Setting.ascending, List.map_cons, List.map_nil, entry, value?]
    rw [foldlM_setGiven (setGiven_format rfl _), foldlM_setGiven (setGiven_nullValue rfl _),
      foldlM_setGiven (setGiven_scale rfl _), foldlM_setGiven (setGiven_parseUpperInclusive rfl _),
      foldlM_setGiven (setGiven_precisionStep rfl _), foldlM_setGiven (setGiven_roundCeil rfl _),
      foldlM_setGiven (setGiven_roundUpperInclusive rfl _), foldlM_setGiven (setGiven_kind rfl _)]
    rfl
  rw [Mapping.ofJson, mapError_eq_ok, toJson_eq, readSettings_record hperm hascending, hfill]

/-! ## Reading back from text -/

theorem isLeaf_value? {s : Setting} {j : Json} (h : m.value? s = some j) : j.IsLeaf := by
  have hmap : ∀ {α : Type} {write : α → Json} {o : Option α}, (∀ a, (write a).IsLeaf) →
      o.map write = some j → j.IsLeaf := by
    intro α write o hwrite hj
    obtain ⟨a, -, rfl⟩ := Option.map_eq_some_iff.mp hj
    exact hwrite a
  cases s with
  | kind | format | nullValue => exact hmap .str h
  | scale => exact hmap (fun s : Scale => .str s.name) h
  | roundUpperInclusive | roundCeil | parseUpperInclusive => exact hmap .bool h
  | precisionStep =>
      refine hmap (fun n => .int ⟨by omega, ?_⟩) h
      exact Int.ofNat_lt.mpr (Nat.lt_trans n.toNat_lt (by decide))

theorem fits_toJson (m : Mapping) : m.toJson.Fits 1 := by
  rw [toJson_eq, Json.record]
  intro e he
  obtain ⟨field, hfield, he⟩ := List.mem_filterMap.mp he
  obtain ⟨s, -, rfl⟩ := List.mem_map.mp hfield
  obtain ⟨j, hj, rfl⟩ := Option.map_eq_some_iff.mp he
  exact isLeaf_value? hj

theorem eraseDups_of_nodup {names : List String} (h : names.Nodup) : names.eraseDups = names := by
  induction names with
  | nil => rfl
  | cons name names ih =>
      obtain ⟨hname, hnames⟩ := List.nodup_cons.mp h
      have hfilter : names.filter (fun other => !other == name) = names := by
        rw [List.filter_eq_self]
        intro other hother
        rw [Bool.not_eq_true', beq_eq_false_iff_ne]
        rintro rfl
        exact hname hother
      rw [List.eraseDups_cons, hfilter, ih hnames]

theorem not_repeatsName (m : Mapping) : repeatsName m.toJson = false := by
  have hnames : ((Setting.all.map m.entry).map Prod.fst).Nodup := by
    show (Setting.all.map Setting.name).Nodup
    decide
  rw [toJson_eq, Json.record, repeatsName, eraseDups_of_nodup (Json.pairwise_names hnames),
    List.length_map]
  exact decide_eq_false (Nat.lt_irrefl _)

theorem parse_compact (m : Mapping) : Mapping.parse m.toJson.compact = .ok m := by
  rw [Mapping.parse, Json.parse?_compact m.fits_toJson (by decide)]
  simp only [not_repeatsName, ofJson_toJson]
  rfl

end Almanac.Mapping
