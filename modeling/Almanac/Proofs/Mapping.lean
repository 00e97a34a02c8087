import Almanac.Mapping
import Almanac.Proofs.DateField
import Almanac.Proofs.Json.Record
/-!
# A mapping that is written back builds the field again

The settings of a field are written in the order of their names and read one by one.  Each is
written by what reads it back or left out, so what is read is the mapping of the field's own
settings (`ofJson_toMapping`), whichever of them are at their defaults.  Built, a setting that was
left out is the default again, and that is what the field had.  The format is the exception: it is
left out when it is the default format under any of its names, and comes back under the first.
-/

namespace Almanac

namespace Mapping

variable {α : Type} {m : Mapping}

theorem Setting.ofName?_name (s : Setting) : ofName? s.name = some s := by
  cases s <;> decide

/-! ## Reading settings -/

/-- Sets a setting by its name, if it is given. -/
def setGiven (m : Mapping) (entry : String × Option Json) : Except String Mapping :=
  match entry.2 with
  | none => .ok m
  | some j => m.setNamed (entry.1, j)

/-- A setting that is missing from a record is not set. -/
theorem foldlM_setNamed : ∀ (entries : List (String × Option Json)) (m : Mapping),
    (entries.filterMap fun e => e.2.map fun v => (e.1, v)).foldlM setNamed m =
      entries.foldlM setGiven m
  | [], _ => rfl
  | (name, none) :: entries, m => foldlM_setNamed entries m
  | (name, some j) :: entries, m => by
      rw [List.filterMap_cons]
      dsimp only [Option.map_some]
      rw [List.foldlM_cons, List.foldlM_cons]
      congr
      funext m'
      exact foldlM_setNamed entries m'

theorem foldlM_setGiven {entry : String × Option Json} {entries : List (String × Option Json)}
    {m' : Mapping} (h : m.setGiven entry = .ok m') :
    (entry :: entries).foldlM setGiven m = entries.foldlM setGiven m' := by
  rw [List.foldlM_cons, h]
  rfl

theorem readSettings_record {entries ascending : List (String × Option Json)}
    (hperm : entries.Perm ascending) (h : (ascending.map Prod.fst).Pairwise (· < ·)) :
    readSettings (.record entries) = ascending.foldlM setGiven {} := by
  rw [Json.record, readSettings, Json.sortedEntries_record hperm h, foldlM_setNamed]

/-- A setting is read back as it is written, or left as it was. -/
theorem setGiven_eq (s : Setting) (write : α → Json) (update : Option α → Mapping) (o : Option α)
    (hnone : update none = m) (hsome : ∀ a, m.set s (write a) = .ok (update (some a))) :
    m.setGiven (s.name, o.map write) = .ok (update o) := by
  cases o with
  | none => exact congrArg Except.ok hnone.symm
  | some a =>
      show m.setNamed (s.name, write a) = _
      simp only [setNamed, Setting.ofName?_name]
      exact hsome a

theorem readStep_toNat (n : UInt32) : readStep (.int n.toNat) = .ok n := by
  have hlt : n.toNat < 4294967296 := n.toNat_lt
  rw [readStep, if_pos ⟨by omega, by omega⟩, Int.toNat_natCast, UInt32.ofNat_toNat]

theorem readScale_name (s : Scale) : readScale (.str s.name) = .ok s :=
  bind_eq_ok.mpr ⟨s.name, rfl, by rw [Scale.ofName?_name]⟩

theorem setGiven_kind (h : m.kind = none) (o : Option String) :
    m.setGiven (Setting.kind.name, o.map .str) = .ok { m with kind := o } :=
  setGiven_eq .kind .str (fun o => { m with kind := o }) o (by rw [← h]) fun _ => rfl

theorem setGiven_format (h : m.format = none) (o : Option String) :
    m.setGiven (Setting.format.name, o.map .str) = .ok { m with format := o } :=
  setGiven_eq .format .str (fun o => { m with format := o }) o (by rw [← h]) fun _ => rfl

theorem setGiven_scale (h : m.scale = none) (o : Option Scale) :
    m.setGiven (Setting.scale.name, o.map fun a => .str a.name) = .ok { m with scale := o } := by
  refine setGiven_eq .scale _ (fun o => { m with scale := o }) o (by rw [← h]) fun a => ?_
  simp only [Mapping.set, Mapping.optional, readScale_name]
  rfl

theorem setGiven_precisionStep (h : m.precisionStep = none) (o : Option UInt32) :
    m.setGiven (Setting.precisionStep.name, o.map fun n => .int n.toNat) =
      .ok { m with precisionStep := o } := by
  refine setGiven_eq .precisionStep _ (fun o => { m with precisionStep := o }) o (by rw [← h])
    fun n => ?_
  simp only [Mapping.set, Mapping.optional, readStep_toNat]
  rfl

theorem setGiven_roundUpperInclusive (h : m.roundUpperInclusive = none) (o : Option Bool) :
    m.setGiven (Setting.roundUpperInclusive.name, o.map .bool) =
      .ok { m with roundUpperInclusive := o } :=
  setGiven_eq .roundUpperInclusive .bool (fun o => { m with roundUpperInclusive := o }) o
    (by rw [← h]) fun _ => rfl

/-! ## Settings that are left out -/

/-- A setting that is given when it is not the default, or when all are. -/
def given (isAll isDefault : Bool) (a : α) : Option α :=
  if isAll || !isDefault then some a else none

theorem unlessDefault_eq (isAll isDefault : Bool) (write : α → Json) (a : α) :
    DateField.unlessDefault isAll isDefault (write a) = (given isAll isDefault a).map write := by
  unfold DateField.unlessDefault given
  split
  · rfl
  · rfl

theorem getD_given [DecidableEq α] (isAll : Bool) (a d : α) :
    (given isAll (decide (a = d)) a).getD d = a := by
  unfold given
  split
  · rfl
  · next h =>
    simp only [Bool.or_eq_true, Bool.not_eq_true', decide_eq_false_iff_not, not_or,
      not_not] at h
    exact h.2.symm

end Mapping

namespace DateField

open Mapping

variable {f : DateField}

/-- The settings of a field, without those at their defaults unless all are wanted. -/
def settings (f : DateField) (isAll : Bool) : Mapping where
  kind := some dateFieldKind
  format := given isAll f.layout.isDefault f.layout.spec
  scale := given isAll (f.resolver.scale = .milliseconds) f.resolver.scale
  nullValue := f.nullValue
  precisionStep := given isAll (f.precisionStep = defaultPrecisionStep) f.precisionStep
  roundUpperInclusive := given isAll f.widenUpper f.widenUpper

/-- The null value as it is written: nothing, or no value, when there is none. -/
def nullEntry (f : DateField) (isAll : Bool) : Option Json :=
  match f.nullValue with
  | some text => some (.str text)
  | none => if isAll then some .null else none

theorem setGiven_nullEntry (f : DateField) (isAll : Bool) {m : Mapping} (h : m.nullValue = none) :
    m.setGiven (Setting.nullValue.name, f.nullEntry isAll) =
      .ok { m with nullValue := f.nullValue } := by
  have hnone : { m with nullValue := none } = m := by rw [← h]
  unfold nullEntry
  cases f.nullValue with
  | some text => rfl
  | none =>
      rw [hnone]
      cases isAll with
      | true => exact congrArg Except.ok hnone
      | false => rfl

theorem toMapping_eq (f : DateField) (isAll : Bool) :
    f.toMapping isAll = .record
      [(Setting.format.name, (f.settings isAll).format.map .str),
        (Setting.nullValue.name, f.nullEntry isAll),
        (Setting.scale.name, (f.settings isAll).scale.map fun s => .str s.name),
        (Setting.precisionStep.name, (f.settings isAll).precisionStep.map fun n => .int n.toNat),
        (Setting.roundUpperInclusive.name, (f.settings isAll).roundUpperInclusive.map .bool),
        (Setting.kind.name, (f.settings isAll).kind.map .str)] := by
  simp only [settings, ← unlessDefault_eq]
  rfl

/-- What is read back of the mapping of a field are the settings of the field. -/
theorem ofJson_toMapping (f : DateField) (isAll : Bool) :
    Mapping.ofJson (f.toMapping isAll) = .ok (f.settings isAll) := by
  have hnames : [Setting.format.name, Setting.nullValue.name, Setting.scale.name,
      Setting.precisionStep.name, Setting.roundUpperInclusive.name,
      Setting.kind.name].Pairwise (· < ·) := by decide
  rw [toMapping_eq, Mapping.ofJson, mapError_eq_ok, readSettings_record (.refl _)]
  · rw [foldlM_setGiven (setGiven_format rfl _), foldlM_setGiven (setGiven_nullEntry f isAll rfl),
      foldlM_setGiven (setGiven_scale rfl _), foldlM_setGiven (setGiven_precisionStep rfl _),
      foldlM_setGiven (setGiven_roundUpperInclusive rfl _), foldlM_setGiven (setGiven_kind rfl _)]
    rfl
  · exact hnames

/-! ## Building -/

/-- A field that is built has a precision step in bounds, and its layout is what its format
compiles to. -/
theorem checked_of_build {m : Mapping} (h : m.build = .ok f) :
    (1 ≤ f.precisionStep ∧ f.precisionStep ≤ 64) ∧
      Layout.compile f.layout.spec = .ok f.layout := by
  obtain ⟨-, -, h⟩ := bind_eq_ok.mp h
  obtain ⟨step, hstep, h⟩ := bind_eq_ok.mp h
  obtain ⟨widenUpper, -, h⟩ := bind_eq_ok.mp h
  obtain ⟨layout, hlayout, h⟩ := bind_eq_ok.mp h
  obtain rfl := pure_eq_ok.mp h
  simp only [checkedStep] at hstep
  split at hstep
  · next hbounds =>
    cases hstep
    exact ⟨hbounds, (congrArg Layout.compile (Layout.spec_of_compile hlayout)).trans hlayout⟩
  · cases hstep

/-- The settings build the field again, with the layout that their format compiles to. -/
theorem build_settings {isAll : Bool} {layout : Layout}
    (hstep : 1 ≤ f.precisionStep ∧ f.precisionStep ≤ 64)
    (hlayout : Layout.compile ((f.settings isAll).format.getD Layout.defaultName) = .ok layout) :
    (f.settings isAll).build = .ok { f with resolver := { f.resolver with layout := layout } } := by
  have hkind : (f.settings isAll).checkKind = .ok () := by
    rw [checkKind, settings]
    exact if_pos rfl
  have hchecked : (f.settings isAll).checkedStep = .ok f.precisionStep := by
    simp only [checkedStep, settings, getD_given]
    exact if_pos hstep
  have hwidening : (f.settings isAll).checkedWidening = .ok f.widenUpper := by
    unfold checkedWidening wideningGiven settings given
    cases isAll <;> cases f.widenUpper <;> rfl
  have hscale : (f.settings isAll).scale.getD .milliseconds = f.resolver.scale :=
    getD_given isAll _ _
  simp only [build, hkind, hchecked, hwidening, hlayout, hscale]
  rfl

theorem build_settings_all (hstep : 1 ≤ f.precisionStep ∧ f.precisionStep ≤ 64)
    (hlayout : Layout.compile f.layout.spec = .ok f.layout) :
    (f.settings true).build = .ok f :=
  build_settings hstep hlayout

theorem build_settings_given (hstep : 1 ≤ f.precisionStep ∧ f.precisionStep ≤ 64)
    (hlayout : Layout.compile f.layout.spec = .ok f.layout) :
    (f.settings false).build = .ok f.respelled := by
  have hname := Layout.isDefault_iff hlayout
  unfold respelled
  split
  · next hspec =>
    refine build_settings hstep ?_
    rw [settings, given, hname.mpr hspec]
    exact Layout.compile_defaultName
  · next hspec =>
    refine build_settings hstep ?_
    rw [settings, given, Bool.eq_false_iff.mpr (mt hname.mp hspec)]
    exact hlayout

/-- The mapping of a field that was built is accepted and builds it again: the same field when all
settings are written, and otherwise the same but for the name of the default format, so that every
request gives the same value or fails as before. -/
theorem mapping_rebuilds {m : Mapping} (h : m.build = .ok f) :
    (∃ m', Mapping.ofJson (f.toMapping true) = .ok m' ∧ m'.build = .ok f) ∧
      ∃ m', Mapping.ofJson (f.toMapping false) = .ok m' ∧ m'.build = .ok f.respelled ∧
        f.Alike f.respelled := by
  obtain ⟨hstep, hlayout⟩ := checked_of_build h
  constructor
  · exact ⟨_, ofJson_toMapping f true, build_settings_all hstep hlayout⟩
  · exact ⟨_, ofJson_toMapping f false, build_settings_given hstep hlayout,
      alike_respelled hlayout⟩

/-- All settings differ from their defaults but the format, which is the default under its other
name and with blanks. -/
theorem mapping_rebuilds_respelled :
    ∃ f : DateField, f.respelled ≠ f ∧
      Mapping.build {
        format := some " date_optional_time ", scale := some .seconds, nullValue := some "NOW",
        precisionStep := some 8, roundCeil := some false } = .ok f ∧
      (∃ m', Mapping.ofJson (f.toMapping true) = .ok m' ∧ m'.build = .ok f) ∧
      ∃ m', Mapping.ofJson (f.toMapping false) = .ok m' ∧ m'.build = .ok f.respelled ∧
        f.Alike f.respelled := by
  have hbuild : Mapping.build {
      format := some " date_optional_time ", scale := some .seconds, nullValue := some "NOW",
      precisionStep := some 8, roundCeil := some false } =
        .ok ⟨⟨⟨" date_optional_time ", .dateOptionalTime, []⟩, .seconds⟩, some "NOW", 8, false⟩ :=
    toOption_eq_some.mp (by decide +kernel)
  exact ⟨_, by decide +kernel, hbuild, mapping_rebuilds hbuild⟩

end DateField

end Almanac
