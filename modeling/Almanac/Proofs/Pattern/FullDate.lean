import Almanac.Proofs.Pattern.RoundTrip
/-!
# Patterns with a full date

A pattern with a year, a month and a day says which day it is, whatever fields of the time it has
besides; those that it leaves out are filled in.  But they are not all filled in, and some are
filled in where they should not be.  So not every such pattern reads what it writes, and `Suffices`
is exactly the condition under which it does (`full_date_read_iff`):

* the second is never filled in, and a fraction without one is refused;
* the hour is not filled in where there is a half of the day, which does not make an hour;
* the half of the day is filled in for a clock hour even where the hour of the day has already said
  it, and in the afternoon the two contradict each other.

There is nothing else in the way, for what is found are the values of one moment.
-/

namespace Almanac.Pattern

open Calendar

/-- A pattern that spells out the year in full, the month and the day. -/
structure HasFullDate (p : Pattern) : Prop where
  year : .field .year ∈ p.items
  month : has p.items isMonth = true
  day : has p.items isDay = true

/-- A pattern whose fields of the time say, with the least values, what time of day it is. -/
structure Suffices (p : Pattern) (m : Moment) : Prop where
  second : has p.items isFraction = true → has p.items (· = .second) = true
  hour : has p.items isHalf = true → has p.items isHour = true ∨ has p.items isClockHour = true
  morning : has p.items isHour = true → has p.items isClockHour = true →
    has p.items isHalf = false → m.hour < 12

variable {p : Pattern} {m : Moment} {items : List Item} {source : List Char} {i : Instant}

/-! ## What is found and filled in -/

theorem has_or (items : List Item) (kind kind' : Field → Bool) :
    has items (fun k => kind k || kind' k) = (has items kind || has items kind') := by
  rw [Bool.eq_iff_iff, Bool.or_eq_true, has_iff, has_iff, has_iff]
  constructor
  · rintro ⟨k, hmem, hk⟩
    rcases Bool.or_eq_true_iff.mp hk with hk | hk
    · exact Or.inl ⟨k, hmem, hk⟩
    · exact Or.inr ⟨k, hmem, hk⟩
  · rintro (⟨k, hmem, hk⟩ | ⟨k, hmem, hk⟩)
    · exact ⟨k, hmem, by rw [hk, Bool.true_or]⟩
    · exact ⟨k, hmem, by rw [hk, Bool.or_true]⟩

theorem has_isHourly_eq (items : List Item) :
    has items isHourly = (has items isHour || has items isClockHour || has items isHalf) := by
  rw [← has_or, ← has_or]
  rfl

theorem takes_foundIf_iff {found : Bool} {value least : Nat} :
    Findings.Takes (foundIf found value) least ↔ (found = true → value = least) := by
  cases found <;> simp [foundIf, Findings.Takes]

/-- Only the half of the day can stand in the way of the least values. -/
theorem fillable_ofItems_iff (hfull : p.HasFullDate) :
    Fillable p.items (Findings.ofItems m p.items) ↔
      (has p.items isHour = true → has p.items isClockHour = true → has p.items isHalf = false →
        m.hour < 12) := by
  have hyear : has p.items isYear = true := has_iff.mpr ⟨.year, hfull.year, rfl⟩
  constructor
  · intro h hhour hclock hhalf
    have htakes := h.half (by rw [hclock, hhalf]; rfl)
    simp only [Findings.ofItems, has_or, takes_foundIf_iff, hhour, Bool.true_or,
      true_implies] at htakes
    omega
  · intro h
    refine ⟨?_, ?_, ?_, ?_, ?_, ?_⟩
    · intro hno
      cases hno.symm.trans hyear
    · intro hno
      cases hno.symm.trans hfull.month
    · intro hno
      cases hno.symm.trans hfull.day
    -- a clock hour by itself lies in the first half, where the hour of the day must lie then
    · intro hlone
      rw [Bool.and_eq_true, Bool.not_eq_true'] at hlone
      obtain ⟨hclock, hhalf⟩ := hlone
      simp only [Findings.ofItems, has_or, takes_foundIf_iff, hhalf, Bool.or_false]
      intro hhour
      have hlt := h hhour hclock hhalf
      omega
    · intro hno
      rw [has_isHourly_eq, Bool.or_eq_false_iff, Bool.or_eq_false_iff] at hno
      obtain ⟨⟨hhour, hclock⟩, hhalf⟩ := hno
      simp [Findings.ofItems, has_or, takes_foundIf_iff, hhour, hclock, hhalf]
    · intro hno
      simp [Findings.ofItems, takes_foundIf_iff, hno]

/-! ## The date -/

theorem date_filled (hw : Writable m) (hfull : p.HasFullDate) :
    ((Findings.ofItems m p.items).filled p.items).date = .ok m.date := by
  have hyear : has p.items (· = .year) = true := has_iff.mpr ⟨.year, hfull.year, rfl⟩
  have hisYear : has p.items isYear = true := has_iff.mpr ⟨.year, hfull.year, rfl⟩
  refine date_eq_ok_iff.mpr ⟨m.date.year, m.date.month.toNat, m.date.day.toNat,
    fullYear_eq_ok hw.year.1 ?_ rfl, ?_, ?_, hw.date.of?_eq, ?_⟩
  · simp only [Findings.filled, Findings.ofItems, hyear, hisYear, if_true, foundIf_true]
  · simp only [Findings.filled, Findings.ofItems, hfull.month, if_true, foundIf_true]
  · simp only [Findings.filled, Findings.ofItems, hfull.day, if_true, foundIf_true]
  · simp only [Findings.filled, Findings.ofItems]
    cases has p.items isWeekday with
    | false => rfl
    | true => exact decide_eq_true rfl

/-! ## The time of day -/

theorem half_filled (hw : Writable m) (items : List Item) :
    ∃ half, ((Findings.ofItems m items).filled items).half = some half ∧ half ≤ 1 := by
  have htime := hw.time
  have hhalf : m.hour / 12 ≤ 1 := by
    unfold Moment.hour
    omega
  simp only [Findings.filled, Findings.ofItems, has_isHourly_eq, has_or]
  cases has items isHour <;> cases has items isClockHour <;> cases has items isHalf <;>
    simp [foundIf, hhalf]

/-- An hour is missing only where there is a half of the day and nothing else. -/
theorem hourInHalf_filled (items : List Item) :
    (∃ hour, ((Findings.ofItems m items).filled items).hourInHalf = some hour) ↔
      (has items isHalf = true → has items isHour = true ∨ has items isClockHour = true) := by
  simp only [Findings.filled, Findings.ofItems, has_isHourly_eq, has_or]
  cases has items isHour <;> cases has items isClockHour <;> cases has items isHalf <;>
    simp [foundIf]

theorem le_of_filled {known found : Bool} {value n : Nat}
    (h : (if known then foundIf found value else some 0) = some n) : n ≤ value := by
  cases known with
  | false =>
      cases h
      exact Nat.zero_le value
  | true =>
      cases found <;> cases h
      exact Nat.le_refl value

theorem minute_filled (items : List Item) :
    ∃ minute, ((Findings.ofItems m items).filled items).minute = some minute := by
  simp only [Findings.filled, Findings.ofItems]
  cases has items isMinute <;> simp [foundIf]

/-- The seconds that are found make no leap second. -/
theorem secondParts_le (found : Bool) :
    (Findings.secondParts ((foundIf found m.second).getD 0)).1 ≤ 59 := by
  have hlt : m.second < 60 := Nat.mod_lt _ (by decide)
  cases found with
  | false => exact Nat.zero_le 59
  | true =>
      show (Findings.secondParts m.second).1 ≤ 59
      rw [Findings.secondParts, if_neg (by omega)]
      exact Nat.le_of_lt_succ hlt

theorem clockTime_seconds_lt (hw : Writable m) {time : Findings.ClockTime}
    (h : ((Findings.ofItems m items).filled items).clockTime = .ok time) :
    time.seconds < 86400 := by
  obtain ⟨half, hour, minute, hhalf, hhour, hminute, -, rfl⟩ := clockTime_eq_ok_iff.mp h
  obtain ⟨half', hhalf', hhalf_le⟩ := half_filled hw items
  obtain rfl := Option.some.inj (hhalf.symm.trans hhalf')
  have hhour_le : hour ≤ m.hour % 12 := le_of_filled hhour
  have hminute_le : minute ≤ m.minute := le_of_filled hminute
  have hminute_lt : m.minute < 60 := Nat.mod_lt _ (by decide)
  have hsecond : (Findings.secondParts
      (((Findings.ofItems m items).filled items).second.getD 0)).1 ≤ 59 := secondParts_le _
  show ((half * 12 + hour) * 60 + minute) * 60 + _ < 86400
  omega

/-- There is a time of day unless a fraction has no second or a half of the day has no hour. -/
theorem exists_clockTime_iff (hw : Writable m) :
    (∃ time, ((Findings.ofItems m items).filled items).clockTime = .ok time) ↔
      (has items isFraction = true → has items (· = .second) = true) ∧
        (has items isHalf = true → has items isHour = true ∨ has items isClockHour = true) := by
  have hsecond : (((Findings.ofItems m items).filled items).second = none →
      ((Findings.ofItems m items).filled items).nanos = none) ↔
        (has items isFraction = true → has items (· = .second) = true) := by
    simp only [Findings.filled, Findings.ofItems]
    cases has items isFraction <;> cases has items (· = .second) <;> simp [foundIf]
  rw [← hsecond, ← hourInHalf_filled (m := m)]
  constructor
  · rintro ⟨time, h⟩
    obtain ⟨half, hour, minute, -, hhour, -, hfraction, -⟩ := clockTime_eq_ok_iff.mp h
    exact ⟨hfraction, hour, hhour⟩
  · rintro ⟨hfraction, hour, hhour⟩
    obtain ⟨half, hhalf, -⟩ := half_filled hw items
    obtain ⟨minute, hminute⟩ := minute_filled (m := m) items
    exact ⟨_, clockTime_eq_ok_iff.mpr ⟨half, hour, minute, hhalf, hhour, hminute, hfraction, rfl⟩⟩

/-! ## The whole -/

/-- What a pattern with a full date writes of a moment it reads if its time suffices, and only
then. -/
theorem exists_read_iff (hw : Writable m) (hp : p.Compiled) (hfull : p.HasFullDate) :
    (∃ r, p.read (p.text m) = .ok r) ↔ p.Suffices m := by
  have hsegments : readSegments {} (segments p.items) (p.text m)
      = .ok (Findings.ofItems m p.items) := readSegments_text hw p.items [] hp.fraction
  constructor
  · rintro ⟨r, hr⟩
    obtain ⟨⟨millis, offset⟩, hparts, -⟩ := bind_eq_ok.mp hr
    obtain ⟨f, g, date, time, hf, hg, -, htime, -⟩ :=
      readParts_eq_ok_iff.mp (mapError_eq_ok.mp hparts)
    obtain rfl := Except.ok.inj (hsegments.symm.trans hf)
    obtain ⟨hfill, rfl⟩ := fillDefaults_eq_ok_iff.mp hg
    obtain ⟨hsecond, hhour⟩ := (exists_clockTime_iff hw).mp ⟨time, htime⟩
    exact ⟨hsecond, hhour, (fillable_ofItems_iff hfull).mp hfill⟩
  · intro h
    have hfill := fillDefaults_eq_ok_iff.mpr ⟨(fillable_ofItems_iff hfull).mpr h.morning, rfl⟩
    obtain ⟨time, htime⟩ := (exists_clockTime_iff hw).mpr ⟨h.second, h.hour⟩
    have hlt := clockTime_seconds_lt hw htime
    have hoffset : ((Findings.ofItems m p.items).filled p.items).offset.getD 0 = 0 := by
      simp only [Findings.filled, Findings.ofItems]
      cases has p.items isOffset <;> rfl
    -- the time found is of the same day, so the calendar reaches as far as for the date itself
    have hday : (m.date.toDay * daySeconds + time.seconds - 0) / daySeconds = m.date.toDay := by
      unfold daySeconds
      omega
    have hclock : onClock m.date time 0
        = .ok ((m.date.toDay * daySeconds + time.seconds - 0) * 1000 + time.millis) :=
      onClock_eq_ok_iff.mpr ⟨by decide, by rw [hday]; exact hw.date.hasDay, rfl⟩
    have hparts := readParts_eq_ok_iff.mpr
      ⟨_, _, _, _, hsegments, hfill, date_filled hw hfull, htime, hoffset.symm, hclock⟩
    exact ⟨_, bind_eq_ok.mpr ⟨_, mapError_eq_ok.mpr hparts, rfl⟩⟩

/-- A pattern with a full date writes every instant of the years from 0 to 9999, and reads it back
exactly if the fields of the time suffice for it. -/
theorem full_date_read_iff (hp : compile source = .ok p) (hfull : p.HasFullDate)
    (h₀ : 0 ≤ (Date.ofDay i.day).year) (h₁ : (Date.ofDay i.day).year ≤ 9999) :
    ∃ m text, i.moment? = some m ∧ p.write i = .ok text ∧
      ((∃ r, p.read text = .ok r) ↔ p.Suffices m) := by
  obtain ⟨m, hm, hw⟩ := exists_writable h₀ h₁
  refine ⟨m, p.text m, hm, ?_, exists_read_iff hw (compile_compiled hp) hfull⟩
  rw [write_eq (compile_compiled hp), Instant.require_eq_ok, hm]
  rfl

/-- A date with its hour on two clocks. -/
def twoClocks : Pattern where
  source := "yyyy-MM-dd HH hh".toList
  items :=
    [.field .year, .literal '-', .field .month, .literal '-', .field .day, .literal ' ',
      .field .hour, .literal ' ', .field .clockHour]
  precision := .hour

/-- Before noon the two clocks agree. -/
theorem full_date_read_iff_morning :
    compile twoClocks.source = .ok twoClocks ∧ ∃ m text,
      Instant.moment? ⟨1684317600000⟩ = some m ∧ twoClocks.write ⟨1684317600000⟩ = .ok text ∧
        ((∃ r, twoClocks.read text = .ok r) ↔ twoClocks.Suffices m) ∧ twoClocks.Suffices m := by
  have hp : compile twoClocks.source = .ok twoClocks := toOption_eq_some.mp (by decide +kernel)
  obtain ⟨m, text, hm, htext, hread⟩ := full_date_read_iff (i := ⟨1684317600000⟩) hp
    ⟨by decide, by decide, by decide⟩ (by decide) (by decide)
  have hhour : m.hour < 12 := by
    have hten : (Instant.moment? ⟨1684317600000⟩).map Moment.hour = some 10 := by decide +kernel
    rw [hm] at hten
    rw [Option.some.inj hten]
    decide
  exact ⟨hp, m, text, hm, htext, hread, ⟨by decide, by decide, fun _ _ _ => hhour⟩⟩

/-- A pattern with a full date writes an instant of the years from 0 to 9999 and does not read the
text that it has written. -/
def Unread (source : String) (i : Instant) : Prop :=
  (0 ≤ (Date.ofDay i.day).year ∧ (Date.ofDay i.day).year ≤ 9999) ∧
    ∃ p text, compile source.toList = .ok p ∧ p.HasFullDate ∧ p.write i = .ok text ∧
      ∃ fault, p.read text = .error fault

/-- Such patterns have a fraction without a second, a half of the day without an hour, or, at noon,
two clocks. -/
theorem full_date_not_read :
    Unread "yyyy-MM-dd SSS" ⟨0⟩ ∧ Unread "yyyy-MM-dd a" ⟨0⟩ ∧
      Unread "yyyy-MM-dd HH hh" ⟨43200000⟩ := by
  have hfraction : compile "yyyy-MM-dd SSS".toList = .ok ⟨"yyyy-MM-dd SSS".toList,
      [.field .year, .literal '-', .field .month, .literal '-', .field .day, .literal ' ',
        .field (.fraction 3)], .millisecond⟩ := toOption_eq_some.mp (by decide +kernel)
  have hhalf : compile "yyyy-MM-dd a".toList = .ok ⟨"yyyy-MM-dd a".toList,
      [.field .year, .literal '-', .field .month, .literal '-', .field .day, .literal ' ',
        .field .half], .day⟩ := toOption_eq_some.mp (by decide +kernel)
  have hnoon : compile "yyyy-MM-dd HH hh".toList = .ok twoClocks :=
    toOption_eq_some.mp (by decide +kernel)
  -- of each, the full date is there, the text is written, and it is not read
  refine ⟨⟨by decide, _, "1970-01-01 000".toList, hfraction, ?_, ?_, ?_⟩,
    ⟨by decide, _, "1970-01-01 AM".toList, hhalf, ?_, ?_, ?_⟩,
    ⟨by decide, _, "1970-01-01 12 12".toList, hnoon, ?_, ?_, ?_⟩⟩
  · exact ⟨by decide, by decide, by decide⟩
  · exact toOption_eq_some.mp (by decide +kernel)
  · exact toOption_eq_none.mp (by decide +kernel)
  · exact ⟨by decide, by decide, by decide⟩
  · exact toOption_eq_some.mp (by decide +kernel)
  · exact toOption_eq_none.mp (by decide +kernel)
  · exact ⟨by decide, by decide, by decide⟩
  · exact toOption_eq_some.mp (by decide +kernel)
  · exact toOption_eq_none.mp (by decide +kernel)

end Almanac.Pattern
