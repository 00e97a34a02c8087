import Almanac.Proofs.Calendar.Moment
import Almanac.Proofs.Reading
import Almanac.Proofs.Timestamp.Scan
import Almanac.Timestamp.OptionalTime
/-!
# Dates with optional time open their unit

A date that is read without a time is midnight, and each further field of the time that is written
makes the unit finer; the fields that are not written are zero.  So the time that is read is always
a whole number of its unit (`Whole`), and the reading opens it.
-/

namespace Almanac.Timestamp

open Calendar

namespace PartialTime

/-- The milliseconds since midnight that the fields add up to. -/
def total (t : PartialTime) : Nat := ((t.hour * 60 + t.minute) * 60 + t.second) * 1000 + t.millis

/-- A time of day that is made of whole units of its precision. -/
def Whole (t : PartialTime) : Prop :=
  ∃ length, t.precision.fixedMillis? = some length ∧ (t.total : Int) % length.toInt = 0

theorem whole_midnight : midnight.Whole := ⟨86400000, rfl, rfl⟩

end PartialTime

variable {cs rest : List Char} {t t' : PartialTime}

/-! ## The fields of the time, from the fraction back to the hour -/

theorem whole_of_fraction (h : scanOptionalFraction t cs = .ok (t', rest))
    (hp : t.precision = .second) (hmillis : t.millis = 0) : t'.Whole := by
  obtain ⟨taken, r₁, -, h⟩ := Scan.bind_eq_ok.mp h
  cases taken with
  | true =>
      obtain ⟨millis, r₂, -, h⟩ := Scan.bind_eq_ok.mp h
      obtain ⟨rfl, -⟩ := Scan.pure_eq_ok.mp h
      exact ⟨1, rfl, Int.emod_one _⟩
  | false =>
      obtain ⟨rfl, -⟩ := Scan.pure_eq_ok.mp h
      refine ⟨1000, by rw [hp]; rfl, ?_⟩
      show (t.total : Int) % 1000 = 0
      unfold PartialTime.total
      omega

theorem whole_of_second (h : scanOptionalSecond t cs = .ok (t', rest))
    (hp : t.precision = .minute) (hsecond : t.second = 0) (hmillis : t.millis = 0) : t'.Whole := by
  obtain ⟨taken, r₁, -, h⟩ := Scan.bind_eq_ok.mp h
  cases taken with
  | true =>
      obtain ⟨second, r₂, -, h⟩ := Scan.bind_eq_ok.mp h
      exact whole_of_fraction h rfl hmillis
  | false =>
      obtain ⟨rfl, -⟩ := Scan.pure_eq_ok.mp h
      refine ⟨60000, by rw [hp]; rfl, ?_⟩
      show (t.total : Int) % 60000 = 0
      unfold PartialTime.total
      omega

theorem whole_of_minute (h : scanOptionalMinute t cs = .ok (t', rest)) (hp : t.precision = .hour)
    (hminute : t.minute = 0) (hsecond : t.second = 0) (hmillis : t.millis = 0) : t'.Whole := by
  obtain ⟨taken, r₁, -, h⟩ := Scan.bind_eq_ok.mp h
  cases taken with
  | true =>
      obtain ⟨minute, r₂, -, h⟩ := Scan.bind_eq_ok.mp h
      exact whole_of_second h rfl hsecond hmillis
  | false =>
      obtain ⟨rfl, -⟩ := Scan.pure_eq_ok.mp h
      refine ⟨3600000, by rw [hp]; rfl, ?_⟩
      show (t.total : Int) % 3600000 = 0
      unfold PartialTime.total
      omega

theorem toMillis?_eq_some {time : Nat} (h : t.toMillis? = some time) :
    time = t.total ∧ time < 86400000 := by
  simp only [PartialTime.toMillis?, timeOfDay?, Option.ite_none_right_eq_some,
    Option.some.injEq] at h
  obtain ⟨hclock, rfl⟩ := h
  unfold PartialTime.total
  exact ⟨rfl, by omega⟩

theorem whole_of_toMillis? {start : List Char} {time : Nat} {precision : CalendarUnit}
    (hwhole : t.Whole)
    (h : (match t.toMillis? with
      | some time => (pure (time, t.precision) : Scan (Nat × CalendarUnit))
      | none => Scan.failFrom start .noSuchTime) cs = .ok ((time, precision), rest)) :
    time < 86400000 ∧
      ∃ length, precision.fixedMillis? = some length ∧ (time : Int) % length.toInt = 0 := by
  cases hmillis : t.toMillis? with
  | none =>
      rw [hmillis] at h
      exact absurd h Scan.failFrom_ne_ok
  | some total =>
      rw [hmillis] at h
      obtain ⟨hpair, -⟩ := Scan.pure_eq_ok.mp h
      obtain ⟨rfl, rfl⟩ := Prod.mk.inj hpair
      obtain ⟨rfl, hlt⟩ := toMillis?_eq_some hmillis
      exact ⟨hlt, hwhole⟩

/-- A time that is scanned, or left out, is less than a day and a whole number of its unit. -/
theorem scanOptionalTime_whole {time : Nat} {precision : CalendarUnit}
    (h : scanOptionalTime cs = .ok ((time, precision), rest)) :
    time < 86400000 ∧
      ∃ length, precision.fixedMillis? = some length ∧ (time : Int) % length.toInt = 0 := by
  obtain ⟨start, r₁, -, h⟩ := Scan.bind_eq_ok.mp h
  obtain ⟨taken, r₂, -, h⟩ := Scan.bind_eq_ok.mp h
  cases taken with
  | true =>
      obtain ⟨hour, r₃, -, h⟩ := Scan.bind_eq_ok.mp h
      obtain ⟨t, r₄, ht, h⟩ := Scan.bind_eq_ok.mp h
      exact whole_of_toMillis? (whole_of_minute ht rfl rfl rfl rfl) h
  | false =>
      obtain ⟨t, r₃, ht, h⟩ := Scan.bind_eq_ok.mp h
      obtain ⟨hmidnight, -⟩ := Scan.pure_eq_ok.mp ht
      exact whole_of_toMillis? (hmidnight ▸ PartialTime.whole_midnight) h

/-! ## The zone -/

theorem scanSignedOffset_bounds {start : List Char} {sign offset : Int} (hs : sign = 1 ∨ sign = -1)
    (h : scanSignedOffset start sign cs = .ok (offset, rest)) : -1439 ≤ offset ∧ offset ≤ 1439 := by
  obtain ⟨⟨hours, minutes⟩, r₁, -, h⟩ := Scan.bind_eq_ok.mp h
  by_cases hlarge : greatestOffsetHours < hours ∨ 59 < minutes
  · simp only [if_pos hlarge] at h
    exact absurd h Scan.failFrom_ne_ok
  · simp only [if_neg hlarge] at h
    obtain ⟨rfl, -⟩ := Scan.pure_eq_ok.mp h
    unfold greatestOffsetHours at hlarge
    rcases hs with rfl | rfl <;> omega

theorem scanZone_bounds {offset : Int} (h : scanZone cs = .ok (offset, rest)) :
    -1439 ≤ offset ∧ offset ≤ 1439 := by
  obtain ⟨start, r₁, -, h⟩ := Scan.bind_eq_ok.mp h
  obtain ⟨utc, r₂, -, h⟩ := Scan.bind_eq_ok.mp h
  cases utc with
  | true =>
      obtain ⟨rfl, -⟩ := Scan.pure_eq_ok.mp h
      decide
  | false =>
      obtain ⟨plus, r₃, -, h⟩ := Scan.bind_eq_ok.mp h
      cases plus with
      | true => exact scanSignedOffset_bounds (Or.inl rfl) h
      | false =>
          obtain ⟨minus, r₄, -, h⟩ := Scan.bind_eq_ok.mp h
          cases minus with
          | true => exact scanSignedOffset_bounds (Or.inr rfl) h
          | false =>
              obtain ⟨rfl, -⟩ := Scan.pure_eq_ok.mp h
              decide

/-! ## The reading -/

/-- A date with optional time opens its unit on the clock of its zone. -/
theorem readOptionalTime_opens {text : List Char} {r : Reading}
    (h : readOptionalTime text = .ok r) : r.Opens := by
  obtain ⟨parts, hparts, h⟩ := bind_eq_ok.mp h
  obtain ⟨instant, hinstant, h⟩ := bind_eq_ok.mp h
  obtain rfl := pure_eq_ok.mp h
  obtain ⟨r₀, hscan⟩ := Scan.run_eq_ok.mp hparts
  obtain ⟨date, r₁, hdate, hscan⟩ := Scan.bind_eq_ok.mp hscan
  obtain ⟨⟨time, precision⟩, r₂, htime, hscan⟩ := Scan.bind_eq_ok.mp hscan
  obtain ⟨offset, r₃, hzone, hscan⟩ := Scan.bind_eq_ok.mp hscan
  obtain ⟨-, r₄, -, hscan⟩ := Scan.bind_eq_ok.mp hscan
  obtain ⟨rfl, -⟩ := Scan.pure_eq_ok.mp hscan
  have hday := (scanDate_exists hdate).hasDay.bounds
  obtain ⟨hlt, length, hfixed, hwhole⟩ := scanOptionalTime_whole htime
  obtain ⟨ho₀, ho₁⟩ := scanZone_bounds hzone
  have hclock : (Moment.toInstant ⟨date, time⟩).toInt = date.toDay * dayMillis + time :=
    Moment.Exists.toInt_toInstant ⟨scanDate_exists hdate, hlt⟩
  have hoffset : (Int64.ofInt (offset * 60000)).toInt = offset * 60000 :=
    Word.toInt_ofInt_of_fits (Word.fits_of_near (by omega))
  rw [Instant.require_eq_ok, Instant.shift?_eq_some_iff, hclock] at hinstant
  change instant.toInt = date.toDay * dayMillis + time + -(offset * 60000) at hinstant
  have hshown : instant.toInt + (Int64.ofInt (offset * 60000)).toInt
      = date.toDay * dayMillis + time := by
    omega
  refine ⟨?_, ?_, ?_, ?_⟩
  · show unitStart precision (_ + _) = _ + _
    rw [hshown]
    exact unitStart_day_add hfixed hwhole
  · intro hp
    cases hfixed.symm.trans hp
  · show _ ≤ instant.toInt ∧ instant.toInt ≤ _
    unfold dayMillis at hinstant
    omega
  · show _ ≤ (Int64.ofInt (offset * 60000)).toInt ∧ (Int64.ofInt (offset * 60000)).toInt ≤ _
    omega

end Almanac.Timestamp
