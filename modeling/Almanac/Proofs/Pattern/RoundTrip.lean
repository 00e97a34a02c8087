import Almanac.Proofs.Pattern.Complete
import Almanac.Proofs.Pattern.Template
import Almanac.Proofs.Resolver.Stages
/-!
# Round trips of complete patterns

What a complete pattern writes of an instant it reads back as the unit that the instant lies in.
The years go from 0 to 9999, in which a year has four digits; a longer year would run into a number
that follows it.  For a field with the pattern as its display format this means that the text of an
instant resolves to the first and to the last millisecond of its unit, with the instant in between.
-/

namespace Almanac

open Calendar

namespace Pattern

variable {source text : List Char} {p : Pattern} {i d e : Instant}

theorem hasDay_of_year (h₀ : 0 ≤ (Date.ofDay i.day).year) (h₁ : (Date.ofDay i.day).year ≤ 9999) :
    HasDay i.day := by
  have hindex : (Date.ofDay i.day).monthIndex = monthOf i.day := rfl
  rw [hasDay_iff, ← hindex]
  unfold Date.year at h₀ h₁
  unfold HasMonth firstYear lastYear
  omega

theorem exists_writable (h₀ : 0 ≤ (Date.ofDay i.day).year) (h₁ : (Date.ofDay i.day).year ≤ 9999) :
    ∃ m, i.moment? = some m ∧ Writable m := by
  have hday := hasDay_of_year h₀ h₁
  have htime := Instant.timeOfDay_bounds i
  refine ⟨⟨.ofDay i.day, i.timeOfDay.toNat⟩, if_pos hday, ⟨Date.exists_ofDay hday, ⟨h₀, h₁⟩, ?_⟩⟩
  show i.timeOfDay.toNat < 86400000
  unfold dayMillis at htime
  omega

theorem exists_rounded (u : CalendarUnit) (h₀ : 0 ≤ (Date.ofDay i.day).year)
    (h₁ : (Date.ofDay i.day).year ≤ 9999) :
    (∃ d, roundDown i u = .ok d) ∧ ∃ e, roundUp i u = .ok e := by
  have hday := hasDay_of_year h₀ h₁
  have hmonth : monthOf (i.toInt / dayMillis) < 120000 := by
    show (Date.ofDay i.day).monthIndex < 120000
    unfold Date.year at h₁
    omega
  have hstart : Reaches u (unitStart u i.toInt) := reaches_unitStart hday
  have hstop : Reaches u (unitStop u i.toInt) := reaches_unitStop hday hmonth
  exact ⟨exists_roundDown_iff.mpr hstart, exists_roundUp_iff.mpr ⟨hstart, hstop⟩⟩

/-- The text of an instant is read as the first millisecond of its unit. -/
theorem read_written {m : Moment} (hp : p.Compiled) (hc : p.IsComplete) (hw : Writable m)
    (hm : i.moment? = some m) (hd : roundDown i p.precision = .ok d) :
    p.read (p.text m) = .ok ⟨d, p.precision, 0⟩ := by
  obtain ⟨hdown, hstart⟩ := roundDown_eq_ok_iff.mp hd
  have hnearest : Instant.nearest (unitStart p.precision m.toMillis) = d := by
    rw [← Instant.toInt_inj, Instant.toMillis_of_moment? hm, hdown]
    exact Instant.toInt_nearest_of_fits hstart.1
  refine bind_eq_ok.mpr ⟨_, mapError_eq_ok.mpr (readParts_text hw hp hc), ?_⟩
  show Except.ok (⟨Instant.nearest _, p.precision, _⟩ : Reading) = _
  rw [hnearest]
  rfl

theorem widen_written (hp : p.Compiled) (hread : p.read text = .ok ⟨d, p.precision, 0⟩)
    (hd : roundDown i p.precision = .ok d) (he : roundUp i p.precision = .ok e) :
    Reading.widen ⟨d, p.precision, 0⟩ .up = .ok e := by
  have hshown : Reading.wallClock? ⟨d, p.precision, 0⟩ = some d := by
    refine Instant.shift?_eq_some_iff.mpr ?_
    show d.toInt = d.toInt + 0
    omega
  obtain ⟨hup, -, hstop⟩ := roundUp_eq_ok_iff.mp he
  rw [(read_opens hp hread).widen_up_eq_ok_iff hshown]
  show e.toInt = unitStop p.precision d.toInt - 1 - 0 ∧ _
  rw [(roundDown_eq_ok_iff.mp hd).1, unitStop_unitStart, hup]
  exact ⟨by omega, hstop⟩

/-- What a complete pattern writes of an instant is read back, and resolved, as the unit that the
instant lies in. -/
theorem write_read (hp : compile source = .ok p) (hc : p.IsComplete)
    (h₀ : 0 ≤ (Date.ofDay i.day).year) (h₁ : (Date.ofDay i.day).year ≤ 9999) :
    ∃ text d e, p.write i = .ok text ∧
      roundDown i p.precision = .ok d ∧ roundUp i p.precision = .ok e ∧ d ≤ i ∧ i ≤ e ∧
      p.read text = .ok ⟨d, p.precision, 0⟩ ∧
      ∀ r : Resolver, r.layout.first = .pattern p → ∀ now : Instant,
        r.resolveText (String.ofList text) now .down = .ok ⟨d, .displayFormat⟩ ∧
          r.resolveText (String.ofList text) now .up = .ok ⟨e, .displayFormat⟩ := by
  have hcompiled := compile_compiled hp
  obtain ⟨m, hm, hw⟩ := exists_writable h₀ h₁
  obtain ⟨⟨d, hd⟩, e, he⟩ := exists_rounded p.precision h₀ h₁
  have hread := read_written hcompiled hc hw hm hd
  refine ⟨p.text m, d, e, ?_, hd, he, roundDown_le hd, le_roundUp he, hread, ?_⟩
  · rw [write_eq hcompiled, hm]
    rfl
  · intro r hr now
    have hfirst : (Layout.Alternative.pattern p).read (p.text m) = .ok ⟨d, p.precision, 0⟩ := hread
    have hlayout : r.layout.read (p.text m) = .ok ⟨d, p.precision, 0⟩ := by
      simp only [Layout.read, hr, hfirst]
    have hwide := widen_written hcompiled hread hd he
    rw [Resolver.resolveText_eq_ok_iff, Resolver.resolveText_eq_ok_iff, String.toList_ofList]
    exact ⟨.displayFormat (Resolver.byLayout_eq_ok_iff.mpr ⟨_, hlayout, rfl⟩),
      .displayFormat (Resolver.byLayout_eq_ok_iff.mpr ⟨_, hlayout, hwide⟩)⟩

/-- A pattern of a clock face: `Wednesday, 17 May 2023 at 01:45 PM`. -/
def clockFace : Pattern where
  source := "EEEE, d MMMM yyyy 'at' h:mm a".toList
  items :=
    [.field (.weekdayName true), .literal ',', .literal ' ', .field .day, .literal ' ',
      .field (.monthName true), .literal ' ', .field .year, .literal ' ', .literal 'a',
      .literal 't', .literal ' ', .field .clockHour, .literal ':', .field .minute, .literal ' ',
      .field .half]
  precision := .minute

theorem compile_clockFace : compile clockFace.source = .ok clockFace :=
  toOption_eq_some.mp (by decide +kernel)

theorem isComplete_clockFace : clockFace.IsComplete := by
  refine ⟨by decide, ?_, fun _ => by decide, fun _ => Or.inr (by decide), fun _ _ => by decide⟩
  intro u hu
  cases u with
  | year => exact ⟨.field .year, by decide, rfl⟩
  | month => exact ⟨.field (.monthName true), by decide, rfl⟩
  | day => exact ⟨.field .day, by decide, rfl⟩
  | hour => exact ⟨.field .clockHour, by decide, rfl⟩
  | minute => exact ⟨.field .minute, by decide, rfl⟩
  | second | millisecond => exact absurd hu (by decide)

/-- An instant of the year 2023 on that clock face. -/
theorem write_read_clockFace :
    ∃ text d e, clockFace.write ⟨1684331112345⟩ = .ok text ∧
      roundDown ⟨1684331112345⟩ .minute = .ok d ∧ roundUp ⟨1684331112345⟩ .minute = .ok e ∧
      d ≤ (⟨1684331112345⟩ : Instant) ∧ (⟨1684331112345⟩ : Instant) ≤ e ∧
      clockFace.read text = .ok ⟨d, .minute, 0⟩ ∧
      ∀ r : Resolver, r.layout.first = .pattern clockFace → ∀ now : Instant,
        r.resolveText (String.ofList text) now .down = .ok ⟨d, .displayFormat⟩ ∧
          r.resolveText (String.ofList text) now .up = .ok ⟨e, .displayFormat⟩ :=
  write_read compile_clockFace isComplete_clockFace (by decide) (by decide)

end Pattern

end Almanac
