import Almanac.Proofs.Timestamp.Agreement
import Almanac.Proofs.Timestamp.Grammar
/-!
# The strict reader and the lenient one

A canonical timestamp is a date with optional time whose time goes down to the second at least, and
whose zone is not an offset.  The two readers are written apart.  One takes the separators as it
comes to them and asks for each, the other nests its optional parts; one adds the fraction to the
instant of the whole seconds, under a check, and the other makes it part of the time of day.  They
agree all the same: the lenient reading of a text is the strict one wherever there is a strict one,
and there is one exactly where the text is spelled as above (`strict_iff_lenient`).

The check in the strict reader never refuses anything, for the fraction stays within its second.
So whatever it refuses is malformed, and nothing is out of range.
-/

namespace Almanac.Timestamp

open Calendar

variable {text : List Char} {w : Spelling} {zone : Zone} {date : Date} {time : Nat}
  {fraction : Option Nat} {r : Reading}

/-! ## Zones -/

/-- A zone that is written in figures. -/
def Zone.IsOffset : Zone → Prop
  | none => False
  | utc => False
  | hours _ _ => True
  | minutes _ _ _ _ => True

/-- A text that names its zone by an offset: it neither leaves the zone out nor writes `Z`. -/
def NamesOffset (text : List Char) : Prop :=
  ∃ w : Spelling, w.IsValid ∧ w.text = text ∧ w.zone.IsOffset

theorem isZone_text_iff : IsZone zone.text ↔ ¬ zone.IsOffset := by
  have hsign (sign : Sign) (cs : List Char) : ¬ IsZone (sign.mark :: cs) := by
    cases sign <;> simp [IsZone, Sign.mark]
  cases zone with
  | none => exact iff_of_true (Or.inl rfl) id
  | utc => exact iff_of_true (Or.inr rfl) id
  | hours sign h => exact iff_of_false (hsign sign _) fun hno => hno trivial
  | minutes sign h colon m => exact iff_of_false (hsign sign _) fun hno => hno trivial

/-! ## What the strict reader accepts -/

/-- A canonical timestamp is read: its instant is always there. -/
theorem Canonical.exists_read (h : Canonical text ⟨date, time⟩ fraction) :
    ∃ r, readCanonical text = .ok r :=
  ⟨_, readCanonical_eq_ok_iff.mpr ⟨date, time, fraction, _, h, h.exists.toInt_toInstant, rfl⟩⟩

theorem exists_scanTime_of_clock {clock : Clock} {rest : List Char} (h : clock.IsValid)
    (hfine : clock.precision = .second ∨ clock.precision = .millisecond) (hrest : IsZone rest) :
    ∃ afterDate afterTime time fraction, clock.text ++ rest = 'T' :: afterDate ∧
      scanTime afterDate = .ok (time, afterTime) ∧ HasFraction afterTime fraction rest := by
  cases clock with
  | none => exact absurd hfine (by simp [Clock.precision])
  | hour h => exact absurd hfine (by simp [Clock.precision])
  | minute h m => exact absurd hfine (by simp [Clock.precision])
  | second hour minute second =>
      obtain ⟨hhour, hminute, hsecond⟩ := h
      have hpoint : rest.head? ≠ some '.' := by
        rcases hrest with rfl | rfl <;> decide
      have htime := scanTime_twoText rest
        (if_pos (by omega) : timeOfDay? hour minute second 0 = some _)
      exact ⟨_, _, _, none, by simp [Clock.text], htime, .without hpoint⟩
  | fraction hour minute second ds =>
      obtain ⟨hhour, hminute, hsecond, hne, hds⟩ := h
      have htime := scanTime_twoText ('.' :: ds ++ rest)
        (if_pos (by omega) : timeOfDay? hour minute second 0 = some _)
      exact ⟨_, _, _, _, by simp [Clock.text], htime, .point (digits?_run hds hne hrest.stops)⟩

/-- A valid spelling is canonical exactly if its time goes down to the second at least, and its zone
is no offset. -/
theorem exists_readCanonical_iff (hw : w.IsValid) :
    (∃ r, readCanonical w.text = .ok r) ↔
      (w.clock.precision = .second ∨ w.clock.precision = .millisecond) ∧ ¬ w.zone.IsOffset := by
  rw [← isZone_text_iff]
  constructor
  · rintro ⟨r, hread⟩
    obtain ⟨date, time, fraction, i, hcanonical, -, -⟩ := readCanonical_eq_ok_iff.mp hread
    generalize htext : w.text = text at hcanonical
    cases hcanonical with
    | parts hdate htime hfraction hzone =>
        -- the lenient scans pass over the same parts, and leave the same zone
        subst htext
        have hafter := (Prod.mk.inj (Except.ok.inj (hw.scanDate_text.symm.trans hdate))).2
        have hclock := hw.scanOptionalTime_text
        rw [hafter, scanOptionalTime_of_scanTime htime hfraction] at hclock
        obtain ⟨hparts, hrest⟩ := Prod.mk.inj (Except.ok.inj hclock)
        refine ⟨?_, hrest ▸ hzone⟩
        rw [← (Prod.mk.inj hparts).2]
        cases fraction with
        | none => exact Or.inl rfl
        | some millis => exact Or.inr rfl
  · rintro ⟨hfine, hzone⟩
    obtain ⟨afterDate, afterTime, time, fraction, htext, htime, hfraction⟩ :=
      exists_scanTime_of_clock hw.clock hfine hzone
    have hdate := hw.scanDate_text
    rw [htext] at hdate
    exact Canonical.exists_read (.parts hdate htime hfraction hzone)

theorem malformed_of_readCanonical {fault : Fault} (h : readCanonical text = .error fault) :
    ∃ slip : Slip, fault = slip.toFault text := by
  rcases bind_eq_error.mp h with hscan | ⟨⟨⟨date, time⟩, fraction⟩, hscan, -⟩
  · obtain ⟨slip, -, rfl⟩ := Scan.run_eq_error_iff.mp hscan
    exact ⟨slip, rfl⟩
  · obtain ⟨rest, hscan⟩ := Scan.run_eq_ok.mp hscan
    obtain ⟨r, hread⟩ := (scanCanonical_eq_ok_iff.mp hscan).1.exists_read
    cases hread.symm.trans h

theorem exists_spelling_of_read (h : readOptionalTime text = .ok r) :
    ∃ w : Spelling, w.IsValid ∧ w.text = text ∧ r.precision = w.clock.precision := by
  obtain ⟨parts, hparts, -⟩ := bind_eq_ok.mp h
  obtain ⟨w, hw, rfl, -⟩ := exists_spelling_of_scan hparts
  obtain ⟨r', hread, -, hprecision, -⟩ := hw.readOptionalTime_eq
  obtain rfl := Except.ok.inj (h.symm.trans hread)
  exact ⟨w, hw, rfl, hprecision⟩

/-! ## The statement -/

/-- A text is read as canonical exactly if it is read as a date with optional time, to the second or
the millisecond, and names no offset; then both readings are the same, and on the clock of UTC.  A
text that is not canonical is malformed: no text is refused for an instant that is out of range. -/
theorem strict_iff_lenient :
    (∀ text r, readCanonical text = .ok r ↔
      readOptionalTime text = .ok r ∧ (r.precision = .second ∨ r.precision = .millisecond) ∧
        ¬ NamesOffset text) ∧
      (∀ text r, readCanonical text = .ok r → r.offset = 0) ∧
      ∀ text fault, readCanonical text = .error fault →
        ∃ span message, fault = .malformedTimestamp (String.ofList text) span message := by
  refine ⟨?_, ?_, ?_⟩
  · intro text r
    constructor
    · intro hread
      have hlenient := readOptionalTime_of_readCanonical hread
      obtain ⟨w, hw, rfl, hprecision⟩ := exists_spelling_of_read hlenient
      refine ⟨hlenient, hprecision ▸ ((exists_readCanonical_iff hw).mp ⟨r, hread⟩).1, ?_⟩
      rintro ⟨w', hw', htext, hoffset⟩
      exact ((exists_readCanonical_iff hw').mp ⟨r, htext ▸ hread⟩).2 hoffset
    · rintro ⟨hread, hfine, hzone⟩
      obtain ⟨w, hw, rfl, hprecision⟩ := exists_spelling_of_read hread
      obtain ⟨r', hread'⟩ := (exists_readCanonical_iff hw).mpr
        ⟨hprecision ▸ hfine, fun hoffset => hzone ⟨w, hw, rfl, hoffset⟩⟩
      obtain rfl := Except.ok.inj ((readOptionalTime_of_readCanonical hread').symm.trans hread)
      exact hread'
  · intro text r hread
    obtain ⟨date, time, fraction, i, -, -, rfl⟩ := readCanonical_eq_ok_iff.mp hread
    rfl
  · intro text fault hread
    obtain ⟨slip, rfl⟩ := malformed_of_readCanonical hread
    exact ⟨_, _, rfl⟩

/-- A year of five digits with a fraction of five, and a year that the calendar does not have. -/
theorem strict_iff_lenient_long_year :
    (∃ r, readCanonical "+12345-02-28T23:59:59.98765Z".toList = .ok r ∧
        readOptionalTime "+12345-02-28T23:59:59.98765Z".toList = .ok r ∧ r.offset = 0) ∧
      ∃ fault span message, readCanonical "+262143-01-01T00:00:00".toList = .error fault ∧
        fault = .malformedTimestamp "+262143-01-01T00:00:00" span message := by
  obtain ⟨hsame, hutc, hmalformed⟩ := strict_iff_lenient
  have hread : readCanonical "+12345-02-28T23:59:59.98765Z".toList
      = .ok (.utc ⟨327408479999987⟩ .millisecond) := toOption_eq_some.mp (by decide +kernel)
  obtain ⟨fault, hfault⟩ := toOption_eq_none.mp
    (by decide +kernel : (readCanonical "+262143-01-01T00:00:00".toList).toOption = none)
  obtain ⟨span, message, hkind⟩ := hmalformed _ fault hfault
  exact ⟨⟨_, hread, ((hsame _ _).mp hread).1, hutc _ _ hread⟩, fault, span, message, hfault, hkind⟩

end Almanac.Timestamp
