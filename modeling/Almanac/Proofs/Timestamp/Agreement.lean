import Almanac.Proofs.Timestamp.Written
import Almanac.Timestamp.OptionalTime
/-!
# Canonical timestamps and dates with optional time

Whatever is a canonical timestamp is also a date with optional time, and both readers read the same
in it (`readOptionalTime_of_readCanonical`); the parts of one are parts of the other.  So the texts
that are written of an instant, canonical or in full, are read back by both, and all that the
canonical reader accepts can be written and read again.
-/

namespace Almanac.Timestamp

open Calendar

variable {cs rest text zone : List Char} {fraction : Option Nat} {i : Instant} {m : Moment}

/-! ## The time of day -/

section Time

variable {hour minute second : Nat} {r₁ r₂ : List Char}

theorem scanOptionalFraction_of_hasFraction (h : HasFraction cs fraction rest) :
    scanOptionalFraction ⟨hour, minute, second, 0, .second⟩ cs
      = .ok (⟨hour, minute, second, fraction.getD 0, precisionOf fraction⟩, rest) := by
  unfold scanOptionalFraction
  rw [Scan.ite_takes_eq_ok]
  cases h with
  | without hpoint => exact Or.inr ⟨hpoint, rfl⟩
  | point hds =>
      exact Or.inl ⟨_, rfl, Scan.bind_eq_ok.mpr
        ⟨_, _, scanFraction_eq_ok_iff.mpr ⟨_, hds, rfl⟩, rfl⟩⟩

theorem scanOptionalSecond_of_second (hsecond : two? cs = some (second, r₁))
    (hfraction : HasFraction r₁ fraction rest) :
    scanOptionalSecond ⟨hour, minute, 0, 0, .minute⟩ (':' :: cs)
      = .ok (⟨hour, minute, second, fraction.getD 0, precisionOf fraction⟩, rest) := by
  unfold scanOptionalSecond
  rw [Scan.ite_takes_eq_ok]
  exact Or.inl ⟨cs, rfl, Scan.bind_eq_ok.mpr ⟨second, r₁, Scan.field_eq_ok.mpr hsecond,
    scanOptionalFraction_of_hasFraction hfraction⟩⟩

theorem scanOptionalMinute_of_minute (hminute : two? cs = some (minute, ':' :: r₁))
    (hsecond : two? r₁ = some (second, r₂)) (hfraction : HasFraction r₂ fraction rest) :
    scanOptionalMinute ⟨hour, 0, 0, 0, .hour⟩ (':' :: cs)
      = .ok (⟨hour, minute, second, fraction.getD 0, precisionOf fraction⟩, rest) := by
  unfold scanOptionalMinute
  rw [Scan.ite_takes_eq_ok]
  exact Or.inl ⟨cs, rfl, Scan.bind_eq_ok.mpr ⟨minute, _, Scan.field_eq_ok.mpr hminute,
    scanOptionalSecond_of_second hsecond hfraction⟩⟩

end Time

/-- A time of day with its fraction is an optional time that is there. -/
theorem scanOptionalTime_of_scanTime {time : Nat} (htime : scanTime cs = .ok (time, rest))
    (hfraction : HasFraction rest fraction zone) :
    scanOptionalTime ('T' :: cs) = .ok ((time + fraction.getD 0, precisionOf fraction), zone) := by
  obtain ⟨hour, minute, second, r₁, r₂, hhour, hminute, hsecond, hclock⟩ :=
    scanTime_eq_ok_iff.mp htime
  have hmillis : PartialTime.toMillis? ⟨hour, minute, second, fraction.getD 0, precisionOf fraction⟩
      = some (time + fraction.getD 0) := by
    have hlt := hfraction.getD_lt
    simp only [timeOfDay?, Option.ite_none_right_eq_some, Option.some.injEq] at hclock
    simp only [PartialTime.toMillis?, timeOfDay?, Option.ite_none_right_eq_some,
      Option.some.injEq]
    omega
  refine Scan.bind_eq_ok.mpr ⟨_, _, Scan.get_eq_ok.mpr ⟨rfl, rfl⟩, Scan.bind_eq_ok.mpr
    ⟨true, cs, Scan.takes_true_eq_ok.mpr rfl, Scan.bind_eq_ok.mpr
      ⟨hour, _, Scan.field_eq_ok.mpr hhour, Scan.bind_eq_ok.mpr
        ⟨_, _, scanOptionalMinute_of_minute hminute hsecond hfraction, ?_⟩⟩⟩⟩
  simp only [hmillis]
  rfl

theorem scanZone_of_isZone (h : IsZone zone) : scanZone zone = .ok (0, []) := by
  rcases h with rfl | rfl <;> rfl

/-! ## The timestamp -/

/-- What a canonical timestamp reads as is what it reads as with its time optional. -/
theorem readOptionalTime_of_readCanonical {r : Reading} (h : readCanonical text = .ok r) :
    readOptionalTime text = .ok r := by
  obtain ⟨date, time, fraction, i, hcanonical, hi, rfl⟩ := readCanonical_eq_ok_iff.mp h
  have hinstant := hcanonical.exists.toInt_toInstant
  cases hcanonical with
  | parts hdate htime hfraction hzone =>
      have hscan : scanDateOptionalTime text
          = .ok (⟨⟨date, time + fraction.getD 0⟩, precisionOf fraction, 0⟩, []) :=
        Scan.bind_eq_ok.mpr ⟨date, _, hdate, Scan.bind_eq_ok.mpr
          ⟨_, _, scanOptionalTime_of_scanTime htime hfraction, Scan.bind_eq_ok.mpr
            ⟨0, [], scanZone_of_isZone hzone, rfl⟩⟩⟩
      -- on the clock of UTC there is nothing to shift by, so no limit is met
      have hshift : (Moment.toInstant ⟨date, time + fraction.getD 0⟩).shift? (-(0 * 60000))
          = some i := by
        rw [Instant.shift?_eq_some_iff, hinstant, hi]
        omega
      exact bind_eq_ok.mpr ⟨_, Scan.run_eq_ok.mpr ⟨[], hscan⟩, bind_eq_ok.mpr
        ⟨i, Instant.require_eq_ok.mpr hshift, rfl⟩⟩

/-! ## Round trips -/

theorem readCanonical_fullText (hm : i.moment? = some m) :
    readCanonical (fullText m) = .ok (.utc i .millisecond) := by
  have hzone : IsZone ['Z'] := Or.inr rfl
  rw [fullText, List.append_assoc]
  exact readCanonical_text hm (hasFraction_padded hzone) rfl hzone

theorem writeCanonical_eq_ok (hm : i.moment? = some m) :
    writeCanonical i = .ok (canonicalText m) := by
  rw [writeCanonical, Instant.require_eq_ok, hm]
  rfl

theorem writeOptionalTime_eq_ok (hm : i.moment? = some m) :
    writeOptionalTime i = .ok (fullText m) := by
  rw [writeOptionalTime, Instant.require_eq_ok, hm]
  rfl

theorem readCanonical_of_mem (hm : i.moment? = some m)
    (h : text ∈ [canonicalText m, canonicalText m ++ ['Z'], fullText m]) :
    ∃ r, readCanonical text = .ok r ∧ r.instant = i := by
  simp only [List.mem_cons, List.not_mem_nil, or_false] at h
  rcases h with rfl | rfl | rfl
  · have hread := readCanonical_canonicalText hm (Or.inl rfl)
    rw [List.append_nil] at hread
    exact ⟨_, hread, rfl⟩
  · exact ⟨_, readCanonical_canonicalText hm (Or.inr rfl), rfl⟩
  · exact ⟨_, readCanonical_fullText hm, rfl⟩

/-- Every instant of the supported calendar is written, canonically and in full, and is read back
by both readers, from the canonical form with a `Z` as well.  Whatever is read as canonical is an
instant of the supported calendar, so that it can be written and read again. -/
theorem write_read_timestamp :
    (∀ i : Instant, i.InCalendar → ∃ short full,
      writeCanonical i = .ok short ∧ writeOptionalTime i = .ok full ∧
        ∀ text ∈ [short, short ++ ['Z'], full],
          (∃ r, readCanonical text = .ok r ∧ r.instant = i) ∧
            ∃ r, readOptionalTime text = .ok r ∧ r.instant = i) ∧
      ∀ (text : List Char) (r : Reading), readCanonical text = .ok r →
        r.instant.InCalendar ∧ ∃ short r', writeCanonical r.instant = .ok short ∧
          readCanonical short = .ok r' ∧ r'.instant = r.instant := by
  constructor
  · intro i hi
    obtain ⟨m, hm⟩ := hi.exists_moment
    refine ⟨_, _, writeCanonical_eq_ok hm, writeOptionalTime_eq_ok hm, ?_⟩
    intro text htext
    obtain ⟨r, hread, hr⟩ := readCanonical_of_mem hm htext
    exact ⟨⟨r, hread, hr⟩, r, readOptionalTime_of_readCanonical hread, hr⟩
  · intro text r hread
    have hi := inCalendar_of_readCanonical hread
    obtain ⟨m, hm⟩ := hi.exists_moment
    obtain ⟨r', hread', hr'⟩ := readCanonical_of_mem hm List.mem_cons_self
    exact ⟨hi, _, r', writeCanonical_eq_ok hm, hread', hr'⟩

/-- The last millisecond before the year 0. -/
theorem write_read_before_zero :
    writeCanonical ⟨-62167219200001⟩ = .ok "-0001-12-31T23:59:59.999".toList ∧
      (∃ r, readOptionalTime "-0001-12-31T23:59:59.999".toList = .ok r ∧
        r.instant = ⟨-62167219200001⟩) ∧
      ∃ r', readCanonical "-0001-12-31T23:59:59.999Z".toList = .ok r' ∧
        r'.instant = ⟨-62167219200001⟩ := by
  have hwrite : writeCanonical ⟨-62167219200001⟩ = .ok "-0001-12-31T23:59:59.999".toList :=
    toOption_eq_some.mp (by decide +kernel)
  obtain ⟨short, full, hshort, -, hread⟩ :=
    write_read_timestamp.1 ⟨-62167219200001⟩ (by decide)
  obtain rfl := Except.ok.inj (hwrite.symm.trans hshort)
  exact ⟨hwrite, (hread _ List.mem_cons_self).2,
    (hread _ (List.mem_cons_of_mem _ List.mem_cons_self)).1⟩

end Almanac.Timestamp
