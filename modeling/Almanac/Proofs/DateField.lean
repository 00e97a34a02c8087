import Almanac.DateField
import Almanac.Proofs.Layout.Spelling
import Almanac.Proofs.Resolver.Stages
/-!
# Fields that answer alike

Two fields answer alike when every request gives the same value with both, or fails with both
(`Alike`).  Faults may differ, for they name the display format as it was written.  A field whose
format is the default one under another name answers like the field with the default format itself
(`alike_respelled`): everything that a field does goes through its resolver and the writing of
instants, and neither depends on how the format was written.
-/

namespace Almanac

namespace Resolver

variable {r r' : Resolver} {now : Instant} {rounding : Rounding}

theorem byLayout_congr (h : ∀ text, r.layout.read text = r'.layout.read text) (text : List Char) :
    r.byLayout text rounding = r'.byLayout text rounding := by
  rw [byLayout, byLayout, h]

theorem byScale?_congr (h : r.scale = r'.scale) (text : List Char) :
    r.byScale? text = r'.byScale? text := by
  rw [byScale?, byScale?, h]

theorem Resolves.congr {text : List Char} {res : Resolution}
    (hread : ∀ text, r.layout.read text = r'.layout.read text) (hscale : r.scale = r'.scale)
    (h : Resolves r text now rounding res) : Resolves r' text now rounding res := by
  cases h with
  | displayFormat hi => exact .displayFormat (byLayout_congr hread text ▸ hi)
  | dateMath hno hi => exact .dateMath (byLayout_congr hread text ▸ hno) hi
  | numericFallback hno hi =>
      exact .numericFallback (byLayout_congr hread text ▸ hno) (byScale?_congr hscale text ▸ hi)

theorem agree_of_read (hread : ∀ text, r.layout.read text = r'.layout.read text)
    (hscale : r.scale = r'.scale) (input : Input) (now : Instant) (rounding : Rounding) :
    Agree (r.resolve input now rounding) (r'.resolve input now rounding) := by
  cases htext : input.text? with
  | none =>
      cases input with
      | number millis => exact Agree.refl _
      | bytes bytes => cases htext
      | text t => cases htext
  | some t =>
      intro res
      rw [resolve_of_text? htext, resolve_of_text? htext, resolveText_eq_ok_iff,
        resolveText_eq_ok_iff]
      exact ⟨Resolves.congr hread hscale,
        Resolves.congr (fun text => (hread text).symm) hscale.symm⟩

variable (h : ∀ input now rounding,
  Agree (r.resolve input now rounding) (r'.resolve input now rounding))

include h

theorem agree_side (input : Option Input) (inclusive : Bool) (now : Instant)
    (rounding : Rounding) :
    Agree (r.side input inclusive now rounding) (r'.side input inclusive now rounding) := by
  cases input with
  | none => exact Agree.refl _
  | some input => exact (h input now rounding).bind fun _ => Agree.refl _

theorem agree_range (lower upper : Option Input) (rules : RangeRules) (now : Instant) :
    Agree (r.range lower upper rules now) (r'.range lower upper rules now) :=
  (agree_side h lower _ now _).bind fun _ => (agree_side h upper _ now _).bind fun _ => Agree.refl _

end Resolver

namespace DateField

variable {f g : DateField}

/-- Each request gives one value with both fields, or fails with both. -/
structure Alike (f g : DateField) : Prop where
  resolver : ∀ input now rounding,
    Agree (f.resolver.resolve input now rounding) (g.resolver.resolve input now rounding)
  resolve : ∀ input now, Agree (f.resolve input now) (g.resolve input now)
  resolveOptional : ∀ input now, Agree (f.resolveOptional input now) (g.resolveOptional input now)
  term : ∀ input now, Agree (f.term input now) (g.term input now)
  range : ∀ lower upper includeLower includeUpper now,
    Agree (f.range lower upper includeLower includeUpper now)
      (g.range lower upper includeLower includeUpper now)
  query : ∀ r, f.query r = g.query r
  window : ∀ input tolerance now,
    Agree (f.window input tolerance now) (g.window input tolerance now)
  windowQuery : ∀ w : Window, w.query f.precisionStep = w.query g.precisionStep
  nullValueQuery : ∀ now, Agree (f.nullValueQuery now) (g.nullValueQuery now)
  display : ∀ i, Agree (f.display i) (g.display i)

/-- Everything goes through the resolver and the writing of instants, but for the settings that
are values themselves. -/
theorem alike_of_resolver
    (hresolver : ∀ input now rounding,
      Agree (f.resolver.resolve input now rounding) (g.resolver.resolve input now rounding))
    (hwrite : ∀ i, f.layout.write i = g.layout.write i) (hnull : f.nullValue = g.nullValue)
    (hstep : f.precisionStep = g.precisionStep) (hwiden : f.widenUpper = g.widenUpper) :
    f.Alike g := by
  have hresolve : ∀ input now, Agree (f.resolve input now) (g.resolve input now) :=
    fun input now => (hresolver input now .down).bind fun _ => Agree.refl _
  have hterm : ∀ input now, Agree (f.term input now) (g.term input now) := by
    intro input now
    unfold term
    rw [hstep]
    exact (hresolve input now).bind fun _ => Agree.refl _
  constructor
  case resolver => exact hresolver
  case resolve => exact hresolve
  case term => exact hterm
  case resolveOptional =>
    intro input now
    unfold resolveOptional
    rw [hnull]
    cases input with
    | some input => exact (hresolve input now).map some
    | none =>
        cases g.nullValue with
        | none => exact Agree.refl _
        | some text => exact (hresolve (.text text) now).map some
  case range =>
    intro lower upper includeLower includeUpper now
    unfold range rangeRules
    rw [hwiden]
    exact Resolver.agree_range hresolver lower upper _ now
  case query =>
    intro r
    rw [query, query, hstep]
  case window =>
    intro input tolerance now
    exact (hresolve input now).bind fun _ => Agree.refl _
  case windowQuery =>
    intro w
    rw [hstep]
  case nullValueQuery =>
    intro now
    unfold nullValueQuery
    rw [hnull]
    cases g.nullValue with
    | none => exact Agree.refl _
    | some text => exact (hterm (.text text) now).map some
  case display =>
    intro i
    unfold display
    rw [hwrite i]
    exact Agree.refl _

/-- The field with the default format under the name that stands in mappings, if it has that format
under any. -/
def respelled (f : DateField) : DateField :=
  if Layout.IsDefaultName f.layout.spec then
    { f with resolver := { f.resolver with layout := .default } }
  else f

theorem alike_respelled (h : Layout.compile f.layout.spec = .ok f.layout) :
    f.Alike f.respelled := by
  unfold respelled
  split
  · next hname =>
    have hdefault := (Layout.isDefault_iff h).mpr hname
    exact alike_of_resolver (Resolver.agree_of_read (Layout.read_of_isDefault hdefault) rfl)
      (Layout.write_of_isDefault hdefault) rfl rfl rfl
  · exact alike_of_resolver (fun _ _ _ => Agree.refl _) (fun _ => rfl) rfl rfl rfl

end DateField

end Almanac
