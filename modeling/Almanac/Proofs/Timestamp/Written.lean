import Mathlib.Data.List.TakeWhile
import Almanac.Proofs.Calendar.Moment
import Almanac.Proofs.Text.Run
import Almanac.Proofs.Timestamp.Scan
/-!
# Canonical timestamps are read back

A canonical timestamp is a date, a `T`, a time of day, perhaps a fraction, and perhaps a `Z`
(`Canonical`); what it reads as is the moment of its parts.  The year is the one field of no fixed
width.  All the digits that follow belong to it, and the dash that is written after it ends them.

So what is written of a moment is read back as that moment, whichever of the two forms of a
fraction it has (`readCanonical_text`).  And what is read lies in the supported calendar
(`Canonical.exists`): the fraction is less than the second that it is added to, so it never leads
out of the day.
-/

namespace Almanac.Timestamp

open Calendar

variable {cs rest text tail zone ds : List Char} {m : Moment} {i : Instant} {fraction : Option Nat}

/-! ## Fields -/

theorem two?_twoText {n : Nat} (h : n < 100) : two? (twoText n ++ rest) = some (n, rest) := by
  have hlength : (twoText n).length = 2 := Text.length_padded 2 n
  have hdigits : (twoText n).all Char.isDigit = true :=
    List.all_eq_true.mpr fun c => Text.isDigit_of_mem_padded
  have hnumber : Text.number (twoText n) = n :=
    (Text.number_padded 2 n).trans (Nat.mod_eq_of_lt h)
  rw [two?, fixed?, List.take_left' hlength, List.drop_left' hlength, if_pos ⟨hlength, hdigits⟩,
    hnumber]

theorem digits?_run (hds : ∀ c ∈ ds, c.isDigit = true) (hne : ds ≠ [])
    (hrest : Text.Stops Char.isDigit rest) : digits? (ds ++ rest) = some (ds, rest) := by
  rw [digits?, Text.takeWhile_run hds hrest, Text.dropWhile_run hds hrest, if_neg hne]

theorem yearNumber?_run (hds : ∀ c ∈ ds, c.isDigit = true) (hfour : 4 ≤ ds.length)
    (hyear : Text.number ds ≤ greatestYear) (hrest : Text.Stops Char.isDigit rest) :
    yearNumber? (ds ++ rest) = some (Text.number ds, rest) := by
  simp only [yearNumber?, Text.takeWhile_run hds hrest, Text.dropWhile_run hds hrest]
  rw [if_pos ⟨hfour, hyear⟩]

theorem year?_of_isDigit {c : Char} (h : c.isDigit = true) :
    year? (c :: cs) = (yearNumber? (c :: cs)).map fun r => ((r.1 : Int), r.2) := by
  unfold year?
  split
  · next heq =>
    cases heq
    cases h
  · next heq =>
    cases heq
    cases h
  · rfl

theorem year?_yearText {y : Int} (hy : y.natAbs ≤ greatestYear)
    (hrest : Text.Stops Char.isDigit rest) : year? (yearText y ++ rest) = some (y, rest) := by
  have hlong : yearNumber? (Text.atLeast 4 y.natAbs ++ rest) = some (y.natAbs, rest) := by
    have hnumber := Text.number_atLeast 4 y.natAbs
    have hread := yearNumber?_run (fun c => Text.isDigit_of_mem_atLeast)
      (Text.length_le_atLeast 4 y.natAbs) (hnumber.symm ▸ hy :) hrest
    rwa [hnumber] at hread
  unfold yearText
  split
  · next hfour =>
    have hdigits : ∀ c ∈ Text.padded 4 y.toNat, c.isDigit = true :=
      fun c => Text.isDigit_of_mem_padded
    have hnumber : Text.number (Text.padded 4 y.toNat) = y.toNat :=
      (Text.number_padded 4 y.toNat).trans
        (Nat.mod_eq_of_lt (show y.toNat < 10000 by omega))
    have hread := yearNumber?_run hdigits (Nat.le_of_eq (Text.length_padded 4 y.toNat).symm)
      (by rw [hnumber]; omega) hrest
    cases hcs : Text.padded 4 y.toNat with
    | nil => exact absurd hcs (Text.padded_ne_nil 3 y.toNat)
    | cons c cs =>
        rw [hcs, List.cons_append] at hread
        rw [List.cons_append, year?_of_isDigit (hdigits c (hcs ▸ List.mem_cons_self)), hread, ← hcs,
          hnumber]
        exact congrArg (fun n => some (n, rest)) (Int.toNat_of_nonneg hfour.1)
  · next hfour =>
    -- every other year has a sign, which is taken first
    split
    · next hneg =>
      show (yearNumber? (_ ++ rest)).map _ = _
      rw [hlong]
      exact congrArg (fun n => some (n, rest)) (by omega)
    · next hpos =>
      show (yearNumber? (_ ++ rest)).map _ = _
      rw [hlong]
      exact congrArg (fun n => some (n, rest)) (by omega)

theorem scanDate_dateText (h : m.date.Exists) :
    scanDate (m.dateText ++ rest) = .ok (m.date, rest) := by
  obtain ⟨hy₀, hy₁⟩ := h.year_bounds
  obtain ⟨hm₀, hm₁⟩ := m.date.month_bounds
  obtain ⟨hd₀, hd₁⟩ := h.day_bounds
  have hyear : m.date.year.natAbs ≤ greatestYear := by
    unfold firstYear at hy₀
    unfold lastYear at hy₁
    unfold greatestYear
    omega
  simp only [Moment.dateText, List.append_assoc, List.cons_append]
  exact scanDate_eq_ok_iff.mpr ⟨_, _, _, _, _, year?_yearText hyear (Text.stops_cons (by decide)),
    two?_twoText (by omega), two?_twoText (by omega), h.of?_eq⟩

theorem scanTime_twoText (rest : List Char) {hour minute second time : Nat}
    (h : timeOfDay? hour minute second 0 = some time) :
    scanTime (twoText hour ++ ':' :: (twoText minute ++ ':' :: (twoText second ++ rest)))
      = .ok (time, rest) := by
  obtain ⟨hhour, hminute, hsecond, -⟩ := (Option.ite_none_right_eq_some.mp h).1
  exact scanTime_eq_ok_iff.mpr ⟨_, _, _, _, _, two?_twoText (by omega), two?_twoText (by omega),
    two?_twoText (by omega), h⟩

theorem scanTime_timeText (h : m.Exists) :
    scanTime (m.timeText ++ rest) = .ok (m.time - m.millis, rest) := by
  simp only [Moment.timeText, List.append_assoc, List.cons_append]
  exact scanTime_twoText rest h.timeOfDay?_eq

theorem scanTime_whole {time : Nat} (h : scanTime cs = .ok (time, rest)) :
    time % 1000 = 0 ∧ time < 86400000 := by
  obtain ⟨hour, minute, second, r₁, r₂, -, -, -, htime⟩ := scanTime_eq_ok_iff.mp h
  simp only [timeOfDay?, Option.ite_none_right_eq_some, Option.some.injEq] at htime
  omega

/-! ## Fractions -/

theorem fractionMillis_lt (hds : ∀ c ∈ ds, c.isDigit = true) : fractionMillis ds < 1000 := by
  have hall : ∀ c ∈ (ds ++ ['0', '0', '0']).take 3, c.isDigit = true := by
    intro c hc
    rcases List.mem_append.mp (List.mem_of_mem_take hc) with hc | hc
    · exact hds c hc
    · obtain rfl : c = '0' := by simpa using hc
      rfl
  have hlength : ((ds ++ ['0', '0', '0']).take 3).length = 3 := by simp
  have hlt := Text.number_lt hall
  rw [hlength] at hlt
  exact hlt

/-- Zeros at the end of a fraction make no difference. -/
theorem take_trimmed (h : ds.length = 3) :
    ((ds.reverse.dropWhile (· = '0')).reverse ++ ['0', '0', '0']).take 3 = ds := by
  have hsplit : (ds.reverse.dropWhile (· = '0')).reverse
      ++ (ds.reverse.takeWhile (· = '0')).reverse = ds := by
    rw [← List.reverse_append, List.takeWhile_append_dropWhile, List.reverse_reverse]
  have hzeros : (ds.reverse.takeWhile (· = '0')).reverse
      = List.replicate (ds.reverse.takeWhile (· = '0')).length '0' := by
    rw [List.eq_replicate_iff]
    refine ⟨List.length_reverse, ?_⟩
    intro c hc
    exact of_decide_eq_true
      (List.mem_takeWhile_imp (p := (· = '0')) (List.mem_reverse.mp hc))
  have hlength := congrArg List.length hsplit
  rw [List.length_append, hzeros, List.length_replicate, h] at hlength
  -- as many zeros are put back as were taken off
  have htake : (['0', '0', '0'] : List Char).take
      (3 - (ds.reverse.dropWhile (· = '0')).reverse.length)
      = List.replicate (ds.reverse.takeWhile (· = '0')).length '0' := by
    show (List.replicate 3 '0').take _ = _
    rw [List.take_replicate]
    exact congrArg (List.replicate · '0') (by omega)
  rw [List.take_append, List.take_of_length_le (by omega), htake, ← hzeros]
  exact hsplit

theorem fractionMillis_padded {millis : Nat} (h : millis < 1000) :
    fractionMillis (Text.padded 3 millis) = millis := by
  unfold fractionMillis
  rw [List.take_left' (Text.length_padded 3 millis), Text.number_padded]
  exact Nat.mod_eq_of_lt h

theorem fractionMillis_trimmed {millis : Nat} (h : millis < 1000) :
    fractionMillis ((Text.padded 3 millis).reverse.dropWhile (· = '0')).reverse = millis := by
  unfold fractionMillis
  rw [take_trimmed (Text.length_padded 3 millis), Text.number_padded]
  exact Nat.mod_eq_of_lt h

/-- The fraction that a text begins with, if it begins with a point, and the text after it. -/
inductive HasFraction : List Char → Option Nat → List Char → Prop
  | without {cs : List Char} : cs.head? ≠ some '.' → HasFraction cs none cs
  | point {cs ds rest : List Char} :
      digits? cs = some (ds, rest) → HasFraction ('.' :: cs) (some (fractionMillis ds)) rest

theorem HasFraction.getD_lt (h : HasFraction cs fraction rest) : fraction.getD 0 < 1000 := by
  cases h with
  | without => exact Nat.zero_lt_succ 999
  | point hds =>
      refine fractionMillis_lt fun c hc => ?_
      simp only [digits?, Option.ite_none_left_eq_some, Option.some.injEq, Prod.mk.injEq] at hds
      obtain ⟨-, rfl, -⟩ := hds
      exact List.mem_takeWhile_imp hc

/-- The text of a canonical timestamp after its moment may go on with a zone. -/
def IsZone (zone : List Char) : Prop := zone = [] ∨ zone = ['Z']

theorem IsZone.stops (h : IsZone zone) : Text.Stops Char.isDigit zone := by
  rcases h with rfl | rfl
  · exact Text.stops_nil
  · exact Text.stops_cons (by decide)

theorem hasFraction_fractionText (hzone : IsZone zone) :
    ∃ fraction, HasFraction (fractionText m.millis ++ zone) fraction zone ∧
      fraction.getD 0 = m.millis ∧ (fraction.isSome ↔ m.millis ≠ 0) := by
  have hlt : m.millis < 1000 := Nat.mod_lt _ (by decide)
  have htrimmed := fractionMillis_trimmed hlt
  unfold fractionText
  by_cases h : m.millis = 0
  · rw [if_pos h]
    refine ⟨none, .without ?_, h.symm, by simp [h]⟩
    rcases hzone with rfl | rfl <;> decide
  · rw [if_neg h]
    refine ⟨some m.millis, ?_, rfl, by simp [h]⟩
    -- a point needs a digit after it, and only zero has none left
    have hne : ((Text.padded 3 m.millis).reverse.dropWhile (· = '0')).reverse ≠ [] := by
      intro hnil
      rw [hnil] at htrimmed
      exact h htrimmed.symm
    have hdigits : ∀ c ∈ ((Text.padded 3 m.millis).reverse.dropWhile (· = '0')).reverse,
        c.isDigit = true := by
      intro c hc
      have hmem := (List.dropWhile_sublist _).subset (List.mem_reverse.mp hc)
      exact Text.isDigit_of_mem_padded (List.mem_reverse.mp hmem)
    have hpoint := HasFraction.point (digits?_run hdigits hne hzone.stops)
    rwa [htrimmed] at hpoint

theorem hasFraction_padded (hzone : IsZone zone) :
    HasFraction ('.' :: Text.padded 3 m.millis ++ zone) (some m.millis) zone := by
  have hlt : m.millis < 1000 := Nat.mod_lt _ (by decide)
  have hpoint := HasFraction.point (digits?_run (fun c => Text.isDigit_of_mem_padded)
    (Text.padded_ne_nil 2 m.millis) hzone.stops)
  rwa [fractionMillis_padded hlt] at hpoint

/-! ## The timestamp -/

/-- A canonical timestamp taken apart into the moment of its whole seconds and its fraction. -/
inductive Canonical : List Char → Moment → Option Nat → Prop
  | parts {text afterDate afterTime zone : List Char} {date : Date} {time : Nat}
      {fraction : Option Nat} :
      scanDate text = .ok (date, 'T' :: afterDate) → scanTime afterDate = .ok (time, afterTime) →
        HasFraction afterTime fraction zone → IsZone zone → Canonical text ⟨date, time⟩ fraction

theorem scanEnd_eq_ok_iff {α : Type} {a b : α} :
    (do
      let _ ← Scan.takes 'Z'
      Scan.finish
      pure a : Scan α) cs = .ok (b, rest) ↔ IsZone cs ∧ a = b ∧ rest = [] := by
  simp only [Scan.bind_eq_ok, Scan.finish_eq_ok, Scan.pure_eq_ok]
  constructor
  · rintro ⟨taken, r₁, htaken, -, r₂, ⟨rfl, rfl⟩, rfl, rfl⟩
    cases taken with
    | true => exact ⟨Or.inr (Scan.takes_true_eq_ok.mp htaken), rfl, rfl⟩
    | false => exact ⟨Or.inl (Scan.takes_false_eq_ok.mp htaken).1.symm, rfl, rfl⟩
  · rintro ⟨rfl | rfl, rfl, rfl⟩
    · exact ⟨false, [], rfl, (), [], ⟨rfl, rfl⟩, rfl, rfl⟩
    · exact ⟨true, [], rfl, (), [], ⟨rfl, rfl⟩, rfl, rfl⟩

theorem scanCanonical_eq_ok_iff :
    scanCanonical cs = .ok ((m, fraction), rest) ↔ Canonical cs m fraction ∧ rest = [] := by
  constructor
  · intro h
    obtain ⟨date, r₁, hdate, h₁⟩ := Scan.bind_eq_ok.mp h
    obtain ⟨u, r₂, hmark, h₂⟩ := Scan.bind_eq_ok.mp h₁
    obtain rfl := Scan.mark_eq_ok.mp hmark
    obtain ⟨time, r₃, htime, h₃⟩ := Scan.bind_eq_ok.mp h₂
    obtain ⟨taken, r₄, htaken, h₄⟩ := Scan.bind_eq_ok.mp h₃
    cases taken with
    | true =>
        obtain rfl := Scan.takes_true_eq_ok.mp htaken
        obtain ⟨o, r₅, ho, h₅⟩ := Scan.bind_eq_ok.mp h₄
        obtain ⟨millis, hmillis, rfl⟩ := Scan.map_eq_ok.mp ho
        obtain ⟨ds, hds, rfl⟩ := scanFraction_eq_ok_iff.mp hmillis
        obtain ⟨hzone, heq, rfl⟩ := scanEnd_eq_ok_iff.mp h₅
        obtain ⟨rfl, rfl⟩ := Prod.mk.inj heq
        exact ⟨.parts hdate htime (.point hds) hzone, rfl⟩
    | false =>
        obtain ⟨rfl, hpoint⟩ := Scan.takes_false_eq_ok.mp htaken
        obtain ⟨hzone, heq, rfl⟩ := scanEnd_eq_ok_iff.mp h₄
        obtain ⟨rfl, rfl⟩ := Prod.mk.inj heq
        exact ⟨.parts hdate htime (.without hpoint) hzone, rfl⟩
  · rintro ⟨⟨hdate, htime, hfraction, hzone⟩, rfl⟩
    refine Scan.bind_eq_ok.mpr ⟨_, _, hdate, Scan.bind_eq_ok.mpr ⟨(), _, Scan.mark_eq_ok.mpr rfl,
      Scan.bind_eq_ok.mpr ⟨_, _, htime, Scan.bind_eq_ok.mpr ?_⟩⟩⟩
    cases hfraction with
    | without hpoint =>
        exact ⟨false, _, Scan.takes_false_eq_ok.mpr ⟨rfl, hpoint⟩,
          scanEnd_eq_ok_iff.mpr ⟨hzone, rfl, rfl⟩⟩
    | point hds =>
        exact ⟨true, _, Scan.takes_true_eq_ok.mpr rfl, Scan.bind_eq_ok.mpr ⟨_, _,
          Scan.map_eq_ok.mpr ⟨_, scanFraction_eq_ok_iff.mpr ⟨_, hds, rfl⟩, rfl⟩,
          scanEnd_eq_ok_iff.mpr ⟨hzone, rfl, rfl⟩⟩⟩

section Parts

variable {date : Date} {time : Nat}

theorem Canonical.exists (h : Canonical text ⟨date, time⟩ fraction) :
    Moment.Exists ⟨date, time + fraction.getD 0⟩ := by
  cases h with
  | parts hdate htime hfraction hzone =>
      have hwhole := scanTime_whole htime
      have hlt := hfraction.getD_lt
      exact ⟨scanDate_exists hdate, show time + fraction.getD 0 < 86400000 by omega⟩

/-- The fraction is added to the instant of the whole seconds. -/
theorem Canonical.toInt_add (h : Canonical text ⟨date, time⟩ fraction) :
    (Moment.toInstant ⟨date, time⟩).toInt + (fraction.getD 0 : Nat)
      = Moment.toMillis ⟨date, time + fraction.getD 0⟩ := by
  have htime := h.exists.time
  have hwhole : Moment.Exists ⟨date, time⟩ :=
    ⟨h.exists.date, Nat.lt_of_le_of_lt (Nat.le_add_right time _) htime⟩
  rw [hwhole.toInt_toInstant]
  simp only [Moment.toMillis]
  omega

end Parts

/-- The precision of a canonical timestamp. -/
def precisionOf (fraction : Option Nat) : CalendarUnit :=
  if fraction.isSome then .millisecond else .second

theorem readCanonical_eq_ok_iff {r : Reading} :
    readCanonical text = .ok r ↔
      ∃ date time fraction i, Canonical text ⟨date, time⟩ fraction ∧
        i.toInt = Moment.toMillis ⟨date, time + fraction.getD 0⟩ ∧
        r = .utc i (precisionOf fraction) := by
  unfold readCanonical
  simp only [bind_eq_ok, pure_eq_ok, Scan.run_eq_ok, Instant.require_eq_ok,
    Instant.shift?_eq_some_iff]
  constructor
  · rintro ⟨⟨⟨date, time⟩, fraction⟩, ⟨rest, hscan⟩, i, hi, rfl⟩
    have hcanonical := (scanCanonical_eq_ok_iff.mp hscan).1
    exact ⟨date, time, fraction, i, hcanonical, hi.trans hcanonical.toInt_add, rfl⟩
  · rintro ⟨date, time, fraction, i, hcanonical, hi, rfl⟩
    exact ⟨(⟨date, time⟩, fraction), ⟨[], scanCanonical_eq_ok_iff.mpr ⟨hcanonical, rfl⟩⟩, i,
      hi.trans hcanonical.toInt_add.symm, rfl⟩

/-! ## What is written -/

theorem canonical_text (h : m.Exists) (hfraction : HasFraction tail fraction zone)
    (hzone : IsZone zone) : Canonical (m.text ++ tail) ⟨m.date, m.time - m.millis⟩ fraction := by
  have hsplit : m.text ++ tail = m.dateText ++ 'T' :: (m.timeText ++ tail) := by
    simp only [Moment.text, List.append_assoc, List.cons_append]
  rw [hsplit]
  exact .parts (scanDate_dateText h.date) (scanTime_timeText h) hfraction hzone

theorem readCanonical_text (hm : i.moment? = some m) (hfraction : HasFraction tail fraction zone)
    (hmillis : fraction.getD 0 = m.millis) (hzone : IsZone zone) :
    readCanonical (m.text ++ tail) = .ok (.utc i (precisionOf fraction)) := by
  obtain ⟨hexists, hi⟩ := Instant.moment?_eq_some_iff.mp hm
  have htime : m.time - m.millis + fraction.getD 0 = m.time := by
    have hle : m.millis ≤ m.time := Nat.mod_le m.time 1000
    omega
  refine readCanonical_eq_ok_iff.mpr
    ⟨m.date, _, fraction, i, canonical_text hexists hfraction hzone, ?_, rfl⟩
  rw [htime]
  exact hi.symm

theorem inCalendar_of_readCanonical {r : Reading} (h : readCanonical text = .ok r) :
    r.instant.InCalendar := by
  obtain ⟨date, time, fraction, i, hcanonical, hi, rfl⟩ := readCanonical_eq_ok_iff.mp h
  exact Instant.inCalendar_of_toMillis hcanonical.exists hi

/-- The canonical form of an instant is read back, to the second if the instant is a whole one. -/
theorem readCanonical_canonicalText (hm : i.moment? = some m) (hzone : IsZone zone) :
    readCanonical (canonicalText m ++ zone)
      = .ok (.utc i (if m.millis = 0 then .second else .millisecond)) := by
  obtain ⟨fraction, hfraction, hmillis, hsome⟩ := hasFraction_fractionText (m := m) hzone
  have hprecision : precisionOf fraction = if m.millis = 0 then .second else .millisecond := by
    unfold precisionOf
    by_cases h : m.millis = 0 <;> simp [h, hsome]
  rw [canonicalText, List.append_assoc, readCanonical_text hm hfraction hmillis hzone, hprecision]

end Almanac.Timestamp
