import Almanac.Proofs.Calendar.Moment
import Almanac.Proofs.Pattern.Segments
/-!
# Complete patterns

A pattern is complete if it says of each unit down to its precision which one it is, and no more
than that (`IsComplete`).  Then what it finds in a text that it has written, with the least values
filled in, are the values of the moment down to the precision and the least ones below
(`filled_ofItems`), and they add up to the first millisecond of the unit (`unitStart_toMillis`).
-/

namespace Almanac.Pattern

open Calendar

/-- A complete pattern spells out the year in full and every unit from there to its precision.  A
clock hour has its half of the day, a half of the day its hour, and a day of the week its date. -/
structure IsComplete (p : Pattern) : Prop where
  year : .field .year ∈ p.items
  units : ∀ u, u ≤ p.precision → ∃ item ∈ p.items, item.unit? = some u
  clockHour : .field .clockHour ∈ p.items → .field .half ∈ p.items
  half : .field .half ∈ p.items → .field .hour ∈ p.items ∨ .field .clockHour ∈ p.items
  weekday : ∀ long, .field (.weekdayName long) ∈ p.items → .field .day ∈ p.items

variable {p : Pattern} {m : Moment} {u : CalendarUnit}

/-! ## The fields of a complete pattern -/

theorem IsComplete.exists_field (hc : p.IsComplete) (hu : u ≤ p.precision) :
    ∃ k, .field k ∈ p.items ∧ k.unit? = some u := by
  obtain ⟨item, hmem, hunit⟩ := hc.units u hu
  cases item with
  | literal c => cases hunit
  | field k => exact ⟨k, hmem, hunit⟩

theorem Compiled.le_precision (hp : p.Compiled) {k : Field} (hmem : .field k ∈ p.items)
    (hunit : k.unit? = some u) : u ≤ p.precision :=
  hp.unit_le (.field k) hmem u hunit

/-- A complete pattern has the fields of a unit exactly down to its precision. -/
theorem has_of_unit (kind : Field → Bool) (u : CalendarUnit) (hp : p.Compiled) (hc : p.IsComplete)
    (hkind : ∀ k, kind k = true ↔ k.unit? = some u) :
    has p.items kind = decide (u ≤ p.precision) := by
  rw [Bool.eq_iff_iff, has_iff, decide_eq_true_iff]
  constructor
  · rintro ⟨k, hmem, hk⟩
    exact hp.le_precision hmem ((hkind k).mp hk)
  · intro hu
    obtain ⟨k, hmem, hunit⟩ := hc.exists_field hu
    exact ⟨k, hmem, (hkind k).mpr hunit⟩

theorem exists_hour_iff (hp : p.Compiled) (hc : p.IsComplete) :
    .hour ≤ p.precision ↔
      .field .hour ∈ p.items ∨ .field .clockHour ∈ p.items ∧ .field .half ∈ p.items := by
  constructor
  · intro hu
    obtain ⟨k, hmem, hunit⟩ := hc.exists_field hu
    cases k with
    | hour => exact Or.inl hmem
    | clockHour => exact Or.inr ⟨hmem, hc.clockHour hmem⟩
    | _ => cases hunit
  · rintro (hmem | ⟨hmem, -⟩)
    · exact hp.le_precision hmem rfl
    · exact hp.le_precision hmem rfl

theorem has_half (hp : p.Compiled) (hc : p.IsComplete) :
    has p.items (fun k => isHour k || isHalf k) = decide (.hour ≤ p.precision) := by
  rw [Bool.eq_iff_iff, has_iff, decide_eq_true_iff, exists_hour_iff hp hc]
  constructor
  · rintro ⟨k, hmem, hk⟩
    cases k with
    | hour => exact Or.inl hmem
    | half =>
        rcases hc.half hmem with h | h
        · exact Or.inl h
        · exact Or.inr ⟨h, hmem⟩
    | _ => cases hk
  · rintro (hmem | ⟨-, hmem⟩)
    · exact ⟨.hour, hmem, rfl⟩
    · exact ⟨.half, hmem, rfl⟩

theorem has_isHourly (hp : p.Compiled) (hc : p.IsComplete) :
    has p.items isHourly = decide (.hour ≤ p.precision) := by
  rw [Bool.eq_iff_iff, has_iff, decide_eq_true_iff, exists_hour_iff hp hc]
  constructor
  · rintro ⟨k, hmem, hk⟩
    cases k with
    | hour => exact Or.inl hmem
    | clockHour => exact Or.inr ⟨hmem, hc.clockHour hmem⟩
    | half =>
        rcases hc.half hmem with h | h
        · exact Or.inl h
        · exact Or.inr ⟨h, hmem⟩
    | _ => cases hk
  · rintro (hmem | ⟨hmem, -⟩)
    · exact ⟨.hour, hmem, rfl⟩
    · exact ⟨.clockHour, hmem, rfl⟩

theorem has_isYear (hc : p.IsComplete) : has p.items isYear = true :=
  has_iff.mpr ⟨.year, hc.year, rfl⟩

theorem no_lone_clockHour (hc : p.IsComplete) :
    (has p.items isClockHour && !has p.items isHalf) = false := by
  cases h : has p.items isClockHour with
  | false => rfl
  | true =>
      obtain ⟨k, hmem, hk⟩ := has_iff.mp h
      obtain rfl : k = .clockHour := of_decide_eq_true hk
      have hhalf : has p.items isHalf = true := has_iff.mpr ⟨.half, hc.clockHour hmem, rfl⟩
      rw [hhalf]
      rfl

/-! ## Values down to a unit -/

/-- A value of a unit, or its least value if the unit is finer than `u`. -/
def downTo (u unit : CalendarUnit) (value least : Nat) : Nat := if unit ≤ u then value else least

/-- The first date of the unit that a date lies in. -/
def firstDate (u : CalendarUnit) (d : Date) : Date :=
  ⟨firstMonth u d.monthIndex, downTo u .day d.day.toNat 1⟩

/-- The first time of day of the unit that a moment lies in. -/
def firstTime (u : CalendarUnit) (m : Moment) : Findings.ClockTime :=
  ⟨((downTo u .hour m.hour 0) * 60 + downTo u .minute m.minute 0) * 60 + downTo u .second m.second 0,
    downTo u .millisecond m.millis 0⟩

/-- The findings of a complete pattern with the least values filled in. -/
def Findings.truncated (m : Moment) (p : Pattern) : Findings where
  year := some m.date.year
  yearOfCentury := foundIf (has p.items (· = .yearOfCentury)) (m.date.year % 100).toNat
  month := some (downTo p.precision .month m.date.month.toNat 1)
  day := some (downTo p.precision .day m.date.day.toNat 1)
  weekday := foundIf (has p.items isWeekday) (weekdayOf m.date.toDay)
  half := some (downTo p.precision .hour (m.hour / 12) 0)
  hourInHalf := some (downTo p.precision .hour (m.hour % 12) 0)
  minute := some (downTo p.precision .minute m.minute 0)
  second := foundIf (.second ≤ p.precision) m.second
  nanos := foundIf (.millisecond ≤ p.precision) (m.millis * 1000000)
  offset := foundIf (has p.items isOffset) 0

theorem filled_foundIf {unit : CalendarUnit} {value least : Nat} :
    (if decide (unit ≤ u) = true then foundIf (decide (unit ≤ u)) value else some least)
      = some (downTo u unit value least) := by
  unfold foundIf downTo
  split
  · next h => rw [if_pos (of_decide_eq_true h)]
  · next h => rw [if_neg (fun hle => h (decide_eq_true hle))]

theorem filled_ofItems (hp : p.Compiled) (hc : p.IsComplete) :
    (Findings.ofItems m p.items).filled p.items = Findings.truncated m p := by
  have hyear : has p.items (· = .year) = true := has_iff.mpr ⟨.year, hc.year, rfl⟩
  have hmonth := has_of_unit isMonth .month hp hc fun k => by
    cases k <;> simp [isMonth, Field.unit?]
  have hday := has_of_unit isDay .day hp hc fun k => by
    cases k <;> simp [isDay, Field.unit?]
  have hhour := has_of_unit (fun k => isHour k || isClockHour k) .hour hp hc fun k => by
    cases k <;> simp [isHour, isClockHour, Field.unit?]
  have hminute := has_of_unit isMinute .minute hp hc fun k => by
    cases k <;> simp [isMinute, Field.unit?]
  have hsecond := has_of_unit (· = .second) .second hp hc fun k => by
    cases k <;> simp [Field.unit?]
  have hfraction := has_of_unit isFraction .millisecond hp hc fun k => decide_eq_true_iff
  simp only [Findings.filled, Findings.ofItems, Findings.truncated, has_isYear hc, hyear, hmonth,
    hday, has_half hp hc, has_isHourly hp hc, no_lone_clockHour hc, hhour, hminute, hsecond,
    hfraction, filled_foundIf, foundIf_true, if_true, Bool.false_eq_true, if_false]

theorem fillable_ofItems (hp : p.Compiled) (hc : p.IsComplete) :
    Fillable p.items (Findings.ofItems m p.items) := by
  have hvacant : ∀ {kind : Field → Bool} {value least : Nat}, has p.items kind = false →
      Findings.Takes (foundIf (has p.items kind) value) least := by
    intro kind value least hno
    rw [hno]
    exact Or.inl rfl
  refine ⟨?_, hvacant, hvacant, ?_, ?_, hvacant⟩
  · intro hno
    rw [has_isYear hc] at hno
    cases hno
  · intro hlone
    rw [no_lone_clockHour hc] at hlone
    cases hlone
  · intro hno
    have hhour : has p.items (fun k => isHour k || isClockHour k) = false := by
      rw [← Bool.not_eq_true, has_iff] at hno ⊢
      rintro ⟨k, hmem, hk⟩
      exact hno ⟨k, hmem, by rw [isHourly, hk, Bool.true_or]⟩
    rw [no_lone_clockHour hc, if_neg Bool.false_ne_true]
    refine ⟨?_, hvacant hhour⟩
    rw [has_isHourly hp hc, ← has_half hp hc] at hno
    exact hvacant hno

/-! ## The first millisecond of the unit -/

theorem downTo_of_le {unit : CalendarUnit} (h : unit ≤ u) (value least : Nat) :
    downTo u unit value least = value :=
  if_pos h

theorem downTo_of_not_le {unit : CalendarUnit} (h : ¬ unit ≤ u) (value least : Nat) :
    downTo u unit value least = least :=
  if_neg h

theorem firstMonth_of_month_le {month : Int} (h : .month ≤ u) : firstMonth u month = month := by
  cases u with
  | year => exact absurd h (by decide)
  | _ => rfl

theorem month_le_of_day_le (h : .day ≤ u) : .month ≤ u := by
  cases u with
  | year | month => exact absurd h (by decide)
  | _ => decide

theorem firstDate_of_day_le {d : Date} (h : .day ≤ u) (hd : 1 ≤ d.day) : firstDate u d = d := by
  unfold firstDate
  rw [firstMonth_of_month_le (month_le_of_day_le h), downTo_of_le h, Int.toNat_of_nonneg (by omega)]

theorem of?_firstDate {d : Date} (hd : d.Exists) (u : CalendarUnit) :
    Date.of? d.year (downTo u .month d.month.toNat 1) (downTo u .day d.day.toNat 1)
      = some (firstDate u d) := by
  have hmonth := d.month_bounds
  have hindex := d.monthIndex_eq
  have hlength := (monthLength_bounds (firstMonth u d.monthIndex)).1
  have hlength' : 1 ≤ monthLength (firstMonth u d.monthIndex) := by omega
  have hhas : HasMonth (firstMonth u d.monthIndex) := hasMonth_firstMonth.mpr hd.hasMonth
  rw [Date.of?_eq_some_iff]
  by_cases hday : .day ≤ u
  · rw [firstDate_of_day_le hday hd.one_le_day, downTo_of_le hday,
      downTo_of_le (month_le_of_day_le hday)]
    have := hd.one_le_day
    exact ⟨by omega, by omega, hd, by omega, by omega⟩
  · unfold firstDate
    rw [downTo_of_not_le hday]
    by_cases hle : .month ≤ u
    · rw [downTo_of_le hle]
      refine ⟨by omega, by omega, ⟨hhas, Int.le_refl 1, hlength'⟩, ?_, rfl⟩
      show firstMonth u d.monthIndex = _
      rw [firstMonth_of_month_le hle]
      omega
    · rw [downTo_of_not_le hle]
      refine ⟨by omega, by omega, ⟨hhas, Int.le_refl 1, hlength'⟩, ?_, rfl⟩
      -- only the year is coarser than the month
      have hyear : u = .year := by
        cases u with
        | year => rfl
        | _ => exact absurd (by decide) hle
      show firstMonth u d.monthIndex = _
      unfold firstMonth
      rw [if_pos hyear]
      unfold Date.year
      omega

/-- A year of the century that is found agrees with the year. -/
theorem fullYear_eq_ok {f : Findings} {y : Int} {found : Bool} (hy : 0 ≤ y)
    (hyear : f.year = some y) (hcentury : f.yearOfCentury = foundIf found (y % 100).toNat) :
    f.fullYear = .ok y := by
  unfold Findings.fullYear
  rw [hyear, hcentury]
  cases found with
  | false => rfl
  | true => exact if_pos ⟨hy, by omega⟩

/-- The truncated findings are the first date of the unit. -/
theorem date_truncated (hm : Writable m) (hp : p.Compiled) (hc : p.IsComplete) :
    (Findings.truncated m p).date = .ok (firstDate p.precision m.date) := by
  refine date_eq_ok_iff.mpr ⟨m.date.year, _, _, fullYear_eq_ok hm.year.1 rfl rfl, rfl, rfl,
    of?_firstDate hm.date _, ?_⟩
  unfold Findings.truncated
  cases hweekday : has p.items isWeekday with
  | false => rfl
  | true =>
      -- a day of the week comes with a day, so it is the day of the week of the very date
      obtain ⟨k, hmem, hk⟩ := has_iff.mp hweekday
      have hday : .field .day ∈ p.items := by
        cases k with
        | weekdayName long => exact hc.weekday long hmem
        | _ => cases hk
      rw [firstDate_of_day_le (hp.le_precision hday rfl) hm.date.one_le_day]
      exact decide_eq_true rfl

theorem getD_foundIf {unit : CalendarUnit} {value : Nat} :
    (foundIf (unit ≤ u) value).getD 0 = downTo u unit value 0 := by
  unfold foundIf downTo
  by_cases h : unit ≤ u <;> simp [h]

theorem clockTime_truncated :
    (Findings.truncated m p).clockTime = .ok (firstTime p.precision m) := by
  have hparts : Findings.secondParts (downTo p.precision .second m.second 0)
      = (downTo p.precision .second m.second 0, 0) := by
    have hlt : m.second < 60 := Nat.mod_lt _ (by decide)
    have hle : downTo p.precision .second m.second 0 ≤ m.second := by
      unfold downTo
      split <;> omega
    exact if_neg (by omega)
  have hhour : downTo p.precision .hour (m.hour / 12) 0 * 12
      + downTo p.precision .hour (m.hour % 12) 0 = downTo p.precision .hour m.hour 0 := by
    unfold downTo
    split <;> omega
  have hmillis : downTo p.precision .millisecond (m.millis * 1000000) 0 / 1000000
      = downTo p.precision .millisecond m.millis 0 := by
    unfold downTo
    split <;> omega
  refine clockTime_eq_ok_iff.mpr ⟨_, _, _, rfl, rfl, rfl, ?_, ?_⟩
  · show foundIf (.second ≤ p.precision) _ = none → foundIf (.millisecond ≤ p.precision) _ = none
    cases p.precision <;> first | exact fun _ => rfl | exact nofun
  · simp only [Findings.truncated, getD_foundIf, hparts, hhour, hmillis, Nat.zero_add, firstTime]

theorem unitStart_toMillis (ht : m.time < 86400000) (hd : m.date.Exists) :
    unitStart u m.toMillis = (firstDate u m.date).toDay * dayMillis
      + ((firstTime u m).seconds * 1000 + (firstTime u m).millis : Nat) := by
  have hday : m.toMillis / dayMillis = m.date.toDay := Moment.Exists.ediv_toMillis ⟨hd, ht⟩
  have hmonth := Date.monthOf_toDay hd.one_le_day hd.day_le
  have hdate : .day ≤ u → firstDate u m.date = m.date :=
    fun hle => firstDate_of_day_le hle hd.one_le_day
  cases u with
  | year | month =>
      -- the first of a month, at midnight
      rw [show firstTime _ m = ⟨0, 0⟩ from rfl,
        show firstDate _ m.date = ⟨firstMonth _ m.date.monthIndex, 1⟩ from rfl]
      simp only [unitStart, CalendarUnit.fixedMillis?, hday, hmonth]
      simp only [Date.toDay, Int.add_sub_cancel, Nat.zero_mul, Nat.add_zero, Int.natCast_zero,
        Int.add_zero]
  | day =>
      have hlength : (86400000 : Int64).toInt = 86400000 := by decide
      rw [hdate (by decide), show firstTime .day m = ⟨0, 0⟩ from rfl]
      simp only [unitStart, CalendarUnit.fixedMillis?, hlength, Moment.toMillis, dayMillis]
      omega
  | hour =>
      have hlength : (3600000 : Int64).toInt = 3600000 := by decide
      rw [hdate (by decide), show firstTime .hour m = ⟨(m.hour * 60 + 0) * 60 + 0, 0⟩ from rfl]
      simp only [unitStart, CalendarUnit.fixedMillis?, hlength, Moment.toMillis, Moment.hour,
        dayMillis]
      omega
  | minute =>
      have hlength : (60000 : Int64).toInt = 60000 := by decide
      rw [hdate (by decide),
        show firstTime .minute m = ⟨(m.hour * 60 + m.minute) * 60 + 0, 0⟩ from rfl]
      simp only [unitStart, CalendarUnit.fixedMillis?, hlength, Moment.toMillis, Moment.hour,
        Moment.minute, dayMillis]
      omega
  | second =>
      have hlength : (1000 : Int64).toInt = 1000 := by decide
      rw [hdate (by decide),
        show firstTime .second m = ⟨(m.hour * 60 + m.minute) * 60 + m.second, 0⟩ from rfl]
      simp only [unitStart, CalendarUnit.fixedMillis?, hlength, Moment.toMillis, Moment.hour,
        Moment.minute, Moment.second, dayMillis]
      omega
  | millisecond =>
      have hlength : (1 : Int64).toInt = 1 := by decide
      rw [hdate (by decide), show firstTime .millisecond m
        = ⟨(m.hour * 60 + m.minute) * 60 + m.second, m.millis⟩ from rfl]
      simp only [unitStart, CalendarUnit.fixedMillis?, hlength, Moment.toMillis, Moment.hour,
        Moment.minute, Moment.second, Moment.millis, dayMillis]
      omega

theorem firstTime_seconds_lt (ht : m.time < 86400000) : (firstTime u m).seconds < 86400 := by
  have hhour : downTo u .hour m.hour 0 ≤ m.time / 3600000 := by
    unfold downTo Moment.hour
    split <;> omega
  have hminute : downTo u .minute m.minute 0 ≤ 59 := by
    unfold downTo Moment.minute
    split <;> omega
  have hsecond : downTo u .second m.second 0 ≤ 59 := by
    unfold downTo Moment.second
    split <;> omega
  unfold firstTime
  simp only
  omega

/-- What a complete pattern reads back is the first millisecond of its unit. -/
theorem readParts_text (hm : Writable m) (hp : p.Compiled) (hc : p.IsComplete) :
    p.readParts (p.text m) = .ok (unitStart p.precision m.toMillis, 0) := by
  have hread : readSegments {} (segments p.items) (p.text m)
      = .ok (Findings.ofItems m p.items) :=
    readSegments_text hm p.items [] hp.fraction
  have hfill := fillDefaults_eq_ok_iff.mpr ⟨fillable_ofItems (m := m) hp hc, rfl⟩
  rw [filled_ofItems hp hc] at hfill
  have hoffset : (Findings.truncated m p).offset.getD 0 = 0 := by
    unfold Findings.truncated foundIf
    simp only
    split <;> rfl
  have hdate := Date.of?_eq_some_iff.mp (of?_firstDate hm.date p.precision)
  have hseconds := firstTime_seconds_lt (u := p.precision) hm.time
  refine readParts_eq_ok_iff.mpr ⟨_, _, _, _, hread, hfill, date_truncated hm hp hc,
    clockTime_truncated, hoffset.symm, onClock_eq_ok_iff.mpr ⟨by decide, ?_, ?_⟩⟩
  · have hday : ((firstDate p.precision m.date).toDay * daySeconds
        + (firstTime p.precision m).seconds - 0) / daySeconds
        = (firstDate p.precision m.date).toDay := by
      unfold daySeconds
      omega
    rw [hday]
    exact hdate.2.2.1.hasDay
  · rw [unitStart_toMillis hm.time hm.date]
    unfold daySeconds dayMillis
    omega

end Almanac.Pattern
