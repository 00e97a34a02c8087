import Almanac.Proofs.Json.Thinned
import Almanac.Proofs.Mapping.Written
import Almanac.Wire
/-!
# Stored values are read back

Each value that is stored or sent is read back from its data form, and from the text of that
(`ReadBack`).  It does not matter whether what is missing is written as null or left out.  The proof
goes by the shape of the form and not by the type.  A record has its members in it, whatever is left
out (`members?_thinned`), and so a structure is read back because its members are (`Encodes`).

The forms that are told apart only by their shape are the ones to watch.  An empty list of bytes is
a list and not a text, and an anchor is a name or a record of one entry, which is never null.
-/

namespace Almanac

open Json Wire

variable {α : Type} {read : Json → Option α} {depth : Nat} {form j : Json} {a : α}

/-- A data form that is read as a value, whichever of its null entries are left out. -/
structure Encodes (read : Json → Option α) (depth : Nat) (form : Json) (a : α) : Prop where
  reads : ∀ ⦃j⦄, Thinned form j → read j = some a
  fits : Fits depth form

theorem members?_thinned {entries fields : List (String × Json)} (names : List String)
    (hnames : fields.map Prod.fst = names) (hdistinct : (entries.map Prod.fst).Nodup)
    (hfields : fields ⊆ entries) (h : Thinned (.obj entries) j) :
    ∃ values, members? names j = some values ∧
      List.Forall₂ Thinned (fields.map Prod.snd) values := by
  obtain ⟨entries', rfl, hentries⟩ := thinned_obj h
  refine ⟨_, rfl, ?_⟩
  rw [← hnames, List.map_map, List.forall₂_map_left_iff, List.forall₂_map_right_iff,
    List.forall₂_same]
  intro e he
  exact hentries.find? hdistinct (hfields he)

namespace Encodes

theorem leaf (h : IsLeaf form) (hread : read form = some a) : Encodes read 0 form a where
  reads := by
    intro j hj
    rw [thinned_leaf h hj]
    exact hread
  fits := h

theorem succ (h : Encodes read depth form a) : Encodes read (depth + 1) form a :=
  ⟨h.reads, h.fits.succ⟩

theorem optional {write : α → Json} {o : Option α} (hnull : read .null = none)
    (h : ∀ a ∈ o, Encodes read depth (write a) a) :
    Encodes (optional? read) depth (.ofOption write o) o := by
  cases o with
  | none =>
      refine ⟨?_, IsLeaf.null.fits depth⟩
      intro j hj
      rw [thinned_leaf .null hj]
      rfl
  | some a =>
      obtain ⟨hreads, hfits⟩ := h a rfl
      refine ⟨?_, hfits⟩
      intro j hj
      have hj' := hreads hj
      unfold optional?
      split
      · rw [hnull] at hj'
        cases hj'
      · rw [hj']
        rfl

theorem mapM_thinned {write : α → Json} {as : List α} {items : List Json}
    (h : ∀ a ∈ as, Encodes read depth (write a) a)
    (hitems : List.Forall₂ Thinned (as.map write) items) : items.mapM read = some as := by
  induction as generalizing items with
  | nil =>
      cases hitems
      rfl
  | cons a as ih =>
      obtain ⟨ha, has⟩ := List.forall_mem_cons.mp h
      obtain ⟨j, items, hfirst, hrest, rfl⟩ := List.forall₂_cons_left_iff.mp hitems
      rw [List.mapM_cons, ha.reads hfirst, ih has hrest]
      rfl

theorem list {write : α → Json} {as : List α} (h : ∀ a ∈ as, Encodes read depth (write a) a) :
    Encodes (items? read) (depth + 1) (.arr (as.map write)) as where
  reads := by
    intro j hj
    obtain ⟨items, rfl, hitems⟩ := thinned_arr hj
    exact mapM_thinned h hitems
  fits := by
    intro j hj
    obtain ⟨a, ha, rfl⟩ := List.mem_map.mp hj
    exact (h a ha).fits

theorem record {entries : List (String × Json)} (names : List String)
    (hnames : entries.map Prod.fst = names) (hdistinct : names.Nodup)
    (hfits : ∀ e ∈ entries, Fits depth e.2)
    (hread : ∀ j values, members? names j = some values →
      List.Forall₂ Thinned (entries.map Prod.snd) values → read j = some a) :
    Encodes read (depth + 1) (.obj entries) a where
  reads := by
    intro j hj
    rw [← hnames] at hdistinct
    obtain ⟨values, hmembers, hvalues⟩ :=
      members?_thinned names hnames hdistinct (List.Subset.refl _) hj
    exact hread j values hmembers hvalues
  fits := hfits

end Encodes

/-! ## Numbers, names and texts -/

theorem isKept_toInt (n : Int64) : IsKept n.toInt := by
  have hfits := Word.fits_toInt n
  unfold Word.Fits Word.least Word.greatest at hfits
  unfold IsKept
  omega

theorem encodes_word (n : Int64) : Encodes word? 0 (ofWord n) n :=
  .leaf (.int (isKept_toInt n)) (Word.fit?_toInt n)

theorem encodes_bool (b : Bool) : Encodes bool? 0 (.bool b) b := .leaf (.bool b) rfl

theorem encodes_text (s : String) : Encodes text? 0 (.str s) s := .leaf (.str s) rfl

theorem natBelow?_ofNat {limit n : Nat} (h : n < limit) :
    natBelow? limit (Wire.ofNat n) = some n :=
  (if_pos ⟨Int.natCast_nonneg n, Int.ofNat_lt.mpr h⟩).trans rfl

theorem isLeaf_ofNat {n : Nat} (h : n < UInt64.size) : IsLeaf (Wire.ofNat n) := by
  refine .int ⟨by omega, ?_⟩
  exact Int.ofNat_lt.mpr h

theorem encodes_size {n : Nat} (h : n < UInt64.size) : Encodes size? 0 (Wire.ofNat n) n :=
  .leaf (isLeaf_ofNat h) (natBelow?_ofNat h)

theorem encodes_step (n : UInt32) : Encodes step? 0 (Wire.ofNat n.toNat) n := by
  have hlt : n.toNat < UInt32.size := n.toNat_lt
  refine .leaf (isLeaf_ofNat (Nat.lt_trans hlt (by decide))) ?_
  rw [step?, natBelow?_ofNat hlt, Option.map_some, UInt32.ofNat_toNat]

theorem Instant.encodes (i : Instant) : Encodes Instant.ofJson? 0 i.toJson i := by
  refine .leaf (.int (isKept_toInt i.millis)) ?_
  rw [Instant.ofJson?, (encodes_word i.millis).reads (.same i.toJson), Option.map_some]

theorem CalendarUnit.encodes (u : CalendarUnit) : Encodes CalendarUnit.ofMember? 0 u.toJson u :=
  .leaf (.str u.name) (CalendarUnit.ofName?_name u)

theorem Stage.encodes (s : Stage) : Encodes Stage.ofJson? 0 s.toJson s := by
  refine .leaf (.str s.key) ?_
  cases s <;> decide

theorem Severity.encodes (s : Severity) : Encodes Severity.ofJson? 0 s.toJson s := by
  cases s with
  | error => exact .leaf (.str "Error") (by decide)

theorem Code.encodes (c : Code) : Encodes Code.ofJson? 0 c.toJson c := by
  have hlt : c.number.toNat < UInt16.size := c.number.toNat_lt
  refine .leaf (isLeaf_ofNat (Nat.lt_trans hlt (by decide))) ?_
  rw [Code.ofJson?, Code.toJson, natBelow?_ofNat hlt, Option.map_some, UInt16.ofNat_toNat]

theorem encodes_byte (b : UInt8) : Encodes (natBelow? 256) 0 (Wire.ofNat b.toNat) b.toNat :=
  .leaf (isLeaf_ofNat (Nat.lt_trans b.toNat_lt (by decide))) (natBelow?_ofNat b.toNat_lt)

theorem encodes_bytes (bs : List UInt8) :
    Encodes (items? (natBelow? 256)) 1 (Input.bytes bs).toJson (bs.map UInt8.toNat) := by
  have hlist : Encodes (items? (natBelow? 256)) 1 (.arr ((bs.map UInt8.toNat).map Wire.ofNat))
      (bs.map UInt8.toNat) := by
    refine .list fun n hn => ?_
    obtain ⟨b, -, rfl⟩ := List.mem_map.mp hn
    exact encodes_byte b
  rwa [List.map_map] at hlist

/-- A number, a list and a text are told apart by their shape, whatever is in them. -/
theorem Input.encodes (i : Input) : Encodes Input.ofJson? 1 i.toJson i := by
  cases i with
  | number millis =>
      have hnumber : Encodes Input.ofJson? 0 (ofWord millis) (.number millis) := by
        refine .leaf (.int (isKept_toInt millis)) ?_
        rw [ofWord, Input.ofJson?, Word.fit?_toInt, Option.map_some]
      exact hnumber.succ
  | text t =>
      have htext : Encodes Input.ofJson? 0 (.str t) (.text t) := .leaf (.str t) rfl
      exact htext.succ
  | bytes bs =>
      obtain ⟨hreads, hfits⟩ := encodes_bytes bs
      refine ⟨?_, hfits⟩
      intro j hj
      have hitems := hreads hj
      obtain ⟨items, rfl, -⟩ := thinned_arr hj
      rw [items?] at hitems
      have hbytes : UInt8.ofNat ∘ UInt8.toNat = id := funext fun b => UInt8.ofNat_toNat
      rw [Input.ofJson?, hitems, Option.map_some, List.map_map, hbytes, List.map_id]

/-! ## Date math -/

namespace DateMath

theorem find?_kind {kind : String} {fields entries : List (String × Json)}
    (h : KeepsEntries Thinned (("op", .str kind) :: fields) entries)
    (hdistinct : ((("op", .str kind) :: fields).map Prod.fst).Nodup) :
    Json.find? entries "op" = some (.str kind) := by
  have hkind := thinned_leaf (.str kind) (h.find? hdistinct List.mem_cons_self)
  cases hfind : Json.find? entries "op" with
  | none =>
      rw [hfind] at hkind
      cases hkind
  | some j =>
      rw [hfind] at hkind
      exact congrArg some hkind

theorem Operation.encodes_kind {op : Operation} {kind : String} {fields : List (String × Json)}
    (names : List String) (hkind : Operation.memberNames kind = names)
    (hnames : fields.map Prod.fst = names) (hdistinct : ("op" :: names).Nodup)
    (hfits : ∀ e ∈ fields, Fits depth e.2)
    (hread : ∀ values, List.Forall₂ Thinned (fields.map Prod.snd) values →
      Operation.ofMembers? kind values = some op) :
    Encodes Operation.ofJson? (depth + 1) (.obj (("op", .str kind) :: fields)) op where
  reads := by
    intro j hj
    have hdistinct' : ((("op", Json.str kind) :: fields).map Prod.fst).Nodup := by
      rwa [List.map_cons, hnames]
    obtain ⟨values, hmembers, hvalues⟩ :=
      members?_thinned names hnames hdistinct' (List.subset_cons_self _ _) hj
    obtain ⟨entries, rfl, hentries⟩ := thinned_obj hj
    simp only [Operation.ofJson?, find?_kind hentries hdistinct', text?, hkind, hmembers,
      Option.bind_eq_bind, Option.bind_some]
    exact hread values hvalues
  fits := List.forall_mem_cons.mpr ⟨IsLeaf.fits (.str kind) depth, hfits⟩

theorem Operation.encodes (op : Operation) : Encodes Operation.ofJson? 1 op.toJson op := by
  cases op with
  | offset unit amount =>
      have hunit := unit.encodes
      have hamount := encodes_word amount
      refine Operation.encodes_kind ["unit", "amount"] rfl rfl (by decide)
        (by simp [hunit.fits, hamount.fits]) ?_
      intro values hvalues
      rcases hvalues with _ | ⟨hu, _ | ⟨ha, _ | _⟩⟩
      simp only [Operation.ofMembers?, hunit.reads hu, hamount.reads ha]
      rfl
  | round unit =>
      have hunit := unit.encodes
      refine Operation.encodes_kind ["unit"] rfl rfl (by decide) (by simp [hunit.fits]) ?_
      intro values hvalues
      rcases hvalues with _ | ⟨hu, _ | _⟩
      simp only [Operation.ofMembers?, hunit.reads hu]
      rfl

/-- The instant of a fixed anchor is not null and is never left out. -/
theorem Anchor.encodes (a : Anchor) : Encodes Anchor.ofJson? 1 a.toJson a := by
  cases a with
  | now =>
      have hnow : Encodes Anchor.ofJson? 0 Anchor.now.toJson .now := .leaf (.str "Now") (by decide)
      exact hnow.succ
  | literal i =>
      have hinstant := i.encodes
      refine ⟨?_, List.forall_mem_singleton.mpr hinstant.fits⟩
      intro j hj
      obtain ⟨entries, rfl, hentries⟩ := thinned_obj hj
      cases hentries with
      | keep hi hrest =>
          cases hrest
          rw [Anchor.ofJson?, hinstant.reads hi, Option.map_some]

theorem Expression.encodes (e : Expression) : Encodes Expression.ofJson? 3 e.toJson e := by
  have hanchor := e.anchor.encodes.succ
  have hoperations : Encodes (items? Operation.ofJson?) 2
      (.arr (e.operations.map Operation.toJson)) e.operations := .list fun op _ => op.encodes
  refine .record ["anchor", "ops"] rfl (by decide) (by simp [hanchor.fits, hoperations.fits]) ?_
  intro j values hmembers hvalues
  rcases hvalues with _ | ⟨ha, _ | ⟨ho, _ | _⟩⟩
  simp only [Expression.ofJson?, hmembers, hanchor.reads ha, hoperations.reads ho]
  rfl

end DateMath

/-! ## Queries -/

theorem Bound.encodes (b : Bound) : Encodes Bound.ofJson? 1 b.toJson b := by
  have hvalue : Encodes (optional? Instant.ofJson?) 0 (.ofOption Instant.toJson b.value) b.value :=
    .optional rfl fun i _ => i.encodes
  have hinclusive := encodes_bool b.inclusive
  refine .record ["value", "inclusive"] rfl (by decide)
    (by simp [hvalue.fits, hinclusive.fits]) ?_
  intro j values hmembers hvalues
  rcases hvalues with _ | ⟨hv, _ | ⟨hi, _ | _⟩⟩
  simp only [Bound.ofJson?, hmembers, hvalue.reads hv, hinclusive.reads hi]
  rfl

theorem Interval.encodes (r : Interval) : Encodes Interval.ofJson? 2 r.toJson r := by
  have hlower := r.lower.encodes
  have hupper := r.upper.encodes
  have hcacheable := (encodes_bool r.cacheable).succ
  refine .record ["lower", "upper", "cacheable"] rfl (by decide)
    (by simp [hlower.fits, hupper.fits, hcacheable.fits]) ?_
  intro j values hmembers hvalues
  rcases hvalues with _ | ⟨hl, _ | ⟨hu, _ | ⟨hc, _ | _⟩⟩⟩
  simp only [Interval.ofJson?, hmembers, hlower.reads hl, hupper.reads hu, hcacheable.reads hc]
  rfl

theorem Query.encodes (q : Query) : Encodes Query.ofJson? 1 q.toJson q := by
  have hend : ∀ o : Option Int64, Encodes (optional? word?) 0 (.ofOption ofWord o) o :=
    fun o => .optional rfl fun n _ => encodes_word n
  have hmin := hend q.min
  have hmax := hend q.max
  have hincludeMin := encodes_bool q.includeMin
  have hincludeMax := encodes_bool q.includeMax
  have hstep := encodes_step q.precisionStep
  refine .record ["min", "max", "include_min", "include_max", "precision_step"] rfl (by decide)
    (by simp [hmin.fits, hmax.fits, hincludeMin.fits, hincludeMax.fits, hstep.fits]) ?_
  intro j values hmembers hvalues
  rcases hvalues with _ | ⟨hn, _ | ⟨hx, _ | ⟨hin, _ | ⟨hix, _ | ⟨hs, _ | _⟩⟩⟩⟩⟩
  simp only [Query.ofJson?, hmembers, hmin.reads hn, hmax.reads hx, hincludeMin.reads hin,
    hincludeMax.reads hix, hstep.reads hs]
  rfl

theorem Window.encodes (w : Window) : Encodes Window.ofJson? 1 w.toJson w := by
  have hcenter := w.center.encodes
  have htolerance := encodes_word w.tolerance
  have hlower := w.lower.encodes
  have hupper := w.upper.encodes
  refine .record ["center", "tolerance", "lower", "upper"] rfl (by decide)
    (by simp [hcenter.fits, htolerance.fits, hlower.fits, hupper.fits]) ?_
  intro j values hmembers hvalues
  rcases hvalues with _ | ⟨hc, _ | ⟨ht, _ | ⟨hl, _ | ⟨hu, _ | _⟩⟩⟩⟩
  simp only [Window.ofJson?, hmembers, hcenter.reads hc, htolerance.reads ht, hlower.reads hl,
    hupper.reads hu]
  rfl

theorem Resolution.encodes (r : Resolution) : Encodes Resolution.ofJson? 1 r.toJson r := by
  have hinstant := r.instant.encodes
  have hstage := r.stage.encodes
  refine .record ["instant", "stage"] rfl (by decide) (by simp [hinstant.fits, hstage.fits]) ?_
  intro j values hmembers hvalues
  rcases hvalues with _ | ⟨hi, _ | ⟨hs, _ | _⟩⟩
  simp only [Resolution.ofJson?, hmembers, hinstant.reads hi, hstage.reads hs]
  rfl

/-! ## Diagnostics -/

/-- All numbers of a location are sizes. -/
structure Location.IsSized (l : Location) : Prop where
  line : l.line < UInt64.size
  column : l.column < UInt64.size
  offset : l.offset < UInt64.size
  length : l.length < UInt64.size

theorem Location.encodes {l : Location} (h : l.IsSized) :
    Encodes Location.ofJson? 1 l.toJson l := by
  have hline := encodes_size h.line
  have hcolumn := encodes_size h.column
  have hoffset := encodes_size h.offset
  have hlength := encodes_size h.length
  refine .record ["line", "column", "offset", "length"] rfl (by decide)
    (by simp [hline.fits, hcolumn.fits, hoffset.fits, hlength.fits]) ?_
  intro j values hmembers hvalues
  rcases hvalues with _ | ⟨hl, _ | ⟨hc, _ | ⟨ho, _ | ⟨hn, _ | _⟩⟩⟩⟩
  simp only [Location.ofJson?, hmembers, hline.reads hl, hcolumn.reads hc, hoffset.reads ho,
    hlength.reads hn]
  rfl

theorem Diagnostic.encodes {d : Diagnostic} (h : ∀ l ∈ d.location, l.IsSized) :
    Encodes Diagnostic.ofJson? 2 d.toJson d := by
  have hseverity := d.severity.encodes.succ
  have hcode := d.code.encodes.succ
  have hmessage := (encodes_text d.message).succ
  have hlocation : Encodes (optional? Location.ofJson?) 1 (.ofOption Location.toJson d.location)
      d.location := .optional rfl fun l hl => Location.encodes (h l hl)
  have hhelp : Encodes (optional? text?) 1 (.ofOption .str d.help) d.help :=
    .optional rfl fun s _ => (encodes_text s).succ
  refine .record ["severity", "code", "message", "location", "help"] rfl (by decide)
    (by simp [hseverity.fits, hcode.fits, hmessage.fits, hlocation.fits, hhelp.fits]) ?_
  intro j values hmembers hvalues
  rcases hvalues with _ | ⟨hs, _ | ⟨hc, _ | ⟨hm, _ | ⟨hl, _ | ⟨hh, _ | _⟩⟩⟩⟩⟩
  simp only [Diagnostic.ofJson?, hmembers, hseverity.reads hs, hcode.reads hc,
    hmessage.reads hm, hlocation.reads hl, hhelp.reads hh]
  rfl

/-! ## Reading back -/

/-- A value is read back from its data form and from the text of that, whichever of the null entries
are left out. -/
def ReadBack (read : Json → Option α) (form : Json) (a : α) : Prop :=
  ∀ j, Thinned form j → read j = some a ∧ (parse? j.compact).bind read = some a

theorem Encodes.readBack (h : Encodes read depth form a) (hdepth : depth ≤ depthLimit) :
    ReadBack read form a := by
  intro j hj
  have hread := h.reads hj
  refine ⟨hread, ?_⟩
  rw [parse?_compact (h.fits.thinned hj) hdepth]
  exact hread

/-- What is stored or sent is read back as it was: inputs, date math, queries and what they are made
of, resolutions, diagnostics whose places are sizes, and mappings. -/
theorem stored_readBack (input : Input) (operation : DateMath.Operation)
    (expression : DateMath.Expression) (bound : Bound) (interval : Interval) (query : Query)
    (window : Window) (resolution : Resolution) (diagnostic : Diagnostic)
    (hsized : ∀ l ∈ diagnostic.location, l.IsSized) (mapping : Mapping) :
    ReadBack Input.ofJson? input.toJson input ∧
      ReadBack DateMath.Operation.ofJson? operation.toJson operation ∧
      ReadBack DateMath.Expression.ofJson? expression.toJson expression ∧
      ReadBack Bound.ofJson? bound.toJson bound ∧
      ReadBack Interval.ofJson? interval.toJson interval ∧
      ReadBack Query.ofJson? query.toJson query ∧
      ReadBack Window.ofJson? window.toJson window ∧
      ReadBack Resolution.ofJson? resolution.toJson resolution ∧
      ReadBack Diagnostic.ofJson? diagnostic.toJson diagnostic ∧
      Mapping.ofJson mapping.toJson = .ok mapping ∧
      Mapping.parse mapping.toJson.compact = .ok mapping :=
  ⟨input.encodes.readBack (by decide), operation.encodes.readBack (by decide),
    expression.encodes.readBack (by decide), bound.encodes.readBack (by decide),
    interval.encodes.readBack (by decide), query.encodes.readBack (by decide),
    window.encodes.readBack (by decide), resolution.encodes.readBack (by decide),
    (Diagnostic.encodes hsized).readBack (by decide), mapping.ofJson_toJson,
    mapping.parse_compact⟩

/-- The forms at the edges: no bytes, the least word, no end, the greatest place and no settings. -/
theorem stored_readBack_edges :
    ∃ diagnostic : Diagnostic, (∀ l ∈ diagnostic.location, l.IsSized) ∧
      ReadBack Input.ofJson? (.arr []) (.bytes []) ∧
      ReadBack DateMath.Operation.ofJson?
        (.obj [("op", .str "offset"), ("unit", .str "day"),
          ("amount", .int (-9223372036854775808))])
        (.offset .day Int64.minValue) ∧
      ReadBack Bound.ofJson? (.obj [("value", .null), ("inclusive", .bool true)]) ⟨none, true⟩ ∧
      ReadBack Diagnostic.ofJson? diagnostic.toJson diagnostic ∧
      Mapping.parse "\x7b\x7d" = .ok {} := by
  have hsized : ∀ l ∈ some (⟨1, 18446744073709551615, 18446744073709551614, 0⟩ : Location),
      l.IsSized := by
    rintro l ⟨⟩
    exact ⟨by decide, by decide, by decide, by decide⟩
  obtain ⟨hbytes, hoffset, -, hbound, -, -, -, -, hdiagnostic, -, hmapping⟩ :=
    stored_readBack (.bytes []) (.offset .day Int64.minValue) ⟨.now, []⟩ ⟨none, true⟩
      ⟨⟨none, true⟩, ⟨none, false⟩, true⟩ ⟨none, none, true, true, 8⟩ ⟨⟨0⟩, 0, ⟨0⟩, ⟨0⟩⟩
      ⟨⟨0⟩, .number⟩ ⟨.error, ⟨101⟩, "", _, none⟩ hsized {}
  exact ⟨_, hsized, hbytes, hoffset, hbound, hdiagnostic, hmapping⟩

end Almanac
