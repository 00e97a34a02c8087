import Mathlib.Order.Bounds.Defs
import Almanac.Proofs.Calendar.Units
/-!
# Rounding partitions time

A unit of fixed length begins at each multiple of its length, a month at the midnight of its first
day, and a year where its January does (`Begins`).  This says where units begin without saying how
one is found, and the two ends of the interval that a millisecond lies in are the last beginning up
to it and the first one after it (`isGreatest_unitStart`, `isLeast_unitStop`).

So the instants that are rounded down to one instant are those that are rounded up to one instant,
and they are the instants in between; the next millisecond is the beginning of the next unit
(`rounding_partitions`).  What is left is where the ends are missing.  For fixed lengths that is
where the word ends.  Months and years end sooner, with the supported calendar, and there the lower
end never matters: the calendar begins with a year.
-/

namespace Almanac.Calendar

variable {u : CalendarUnit} {n b : Int} {x y d p : Instant}

/-! ## Where units begin -/

/-- The first millisecond of a unit. -/
def Begins (u : CalendarUnit) (n : Int) : Prop :=
  match u.fixedMillis? with
  | some length => length.toInt ∣ n
  | none => ∃ month, monthsPer u ∣ month ∧ n = (Date.mk month 1).toDay * dayMillis

theorem monthsPer_dvd_firstMonth (u : CalendarUnit) (month : Int) :
    monthsPer u ∣ firstMonth u month := by
  unfold monthsPer firstMonth
  split <;> omega

theorem firstMonth_eq_self {month : Int} (h : monthsPer u ∣ month) :
    firstMonth u month = month := by
  unfold monthsPer at h
  unfold firstMonth
  split
  · next hyear =>
    rw [if_pos hyear] at h
    omega
  · rfl

theorem toDay_first (month : Int) : (Date.mk month 1).toDay = monthStart month := by
  simp only [Date.toDay, Int.add_sub_cancel]

/-- A unit begins where the interval of a millisecond begins with it. -/
theorem begins_iff : Begins u n ↔ unitStart u n = n := by
  cases h : u.fixedMillis? with
  | some length =>
      simp only [Begins, unitStart, h, Int.dvd_iff_emod_eq_zero]
      omega
  | none =>
      simp only [Begins, unitStart, h, toDay_first]
      constructor
      · rintro ⟨month, hmonth, rfl⟩
        rw [day_monthStart, monthOf_monthStart, firstMonth_eq_self hmonth]
      · intro hn
        exact ⟨_, monthsPer_dvd_firstMonth u _, hn.symm⟩

theorem begins_unitStart (u : CalendarUnit) (n : Int) : Begins u (unitStart u n) :=
  begins_iff.mpr (unitStart_unitStart u n)

theorem begins_unitStop (u : CalendarUnit) (n : Int) : Begins u (unitStop u n) := by
  cases h : u.fixedMillis? with
  | some length =>
      have hstart := begins_unitStart u n
      simp only [Begins, unitStart, unitStop, h] at hstart ⊢
      exact Int.dvd_add hstart (Int.dvd_refl _)
  | none =>
      simp only [Begins, unitStop, h, toDay_first]
      exact ⟨_, Int.dvd_add (monthsPer_dvd_firstMonth u _) (Int.dvd_refl _), rfl⟩

/-- The interval of a millisecond starts at the last beginning of a unit up to it. -/
theorem isGreatest_unitStart (u : CalendarUnit) (n : Int) :
    IsGreatest {b | Begins u b ∧ b ≤ n} (unitStart u n) := by
  refine ⟨⟨begins_unitStart u n, unitStart_le u n⟩, ?_⟩
  rintro b ⟨hb, hle⟩
  rw [← begins_iff.mp hb]
  exact unitStart_mono u hle

/-- The interval of a millisecond stops at the first beginning of a unit after it. -/
theorem isLeast_unitStop (u : CalendarUnit) (n : Int) :
    IsLeast {b | Begins u b ∧ n < b} (unitStop u n) := by
  refine ⟨⟨begins_unitStop u n, lt_unitStop u n⟩, ?_⟩
  rintro b ⟨hb, hlt⟩
  rcases Int.lt_or_le b (unitStop u n) with hin | hle
  · -- a beginning inside the interval would be its start, and that is not after `n`
    have hstart := unitStart_le u n
    have hsame : unitStart u b = unitStart u n := unitStart_eq_iff.mpr ⟨by omega, hin⟩
    rw [begins_iff.mp hb] at hsame
    omega
  · exact hle

/-! ## Where the ends are missing -/

/-- The unit of an instant has no first instant: it begins before the first one, or the calendar
does not have it. -/
def StartMissing (u : CalendarUnit) (x : Instant) : Prop :=
  match u.fixedMillis? with
  | some _ => unitStart u x.toInt < Word.least
  | none => ¬ x.InCalendar

/-- The unit after that of an instant has no first instant: it begins after the last one, or in a
year after the last one of the calendar. -/
def NextMissing (u : CalendarUnit) (x : Instant) : Prop :=
  match u.fixedMillis? with
  | some _ => Word.greatest < unitStop u x.toInt
  | none => lastYear < (Date.ofDay (unitStop u x.toInt / dayMillis)).year

/-- Only the lower end of the word can cut off the start of a unit. -/
theorem not_reaches_unitStart :
    ¬ Reaches u (unitStart u x.toInt) ↔ StartMissing u x := by
  have hle := unitStart_le u x.toInt
  have hx := x.fits_toInt
  cases h : u.fixedMillis? with
  | some length =>
      rw [reaches_fixed h]
      simp only [StartMissing, h]
      unfold Word.Fits at *
      omega
  | none =>
      simp only [StartMissing, h, not_iff_not]
      constructor
      · intro hreach
        exact (hasDay_unitStart h).mp (hreach.2 h)
      · exact reaches_unitStart

/-- Only the upper end of the word, or of the calendar, can cut off the next unit. -/
theorem not_reaches_unitStop (hstart : Reaches u (unitStart u x.toInt)) :
    ¬ Reaches u (unitStop u x.toInt) ↔ NextMissing u x := by
  have hlt := lt_unitStop u x.toInt
  have hx := x.fits_toInt
  cases h : u.fixedMillis? with
  | some length =>
      rw [reaches_fixed h]
      simp only [NextMissing, h]
      unfold Word.Fits at *
      omega
  | none =>
      have hmonth : HasMonth (firstMonth u (monthOf (x.toInt / dayMillis))) :=
        hasMonth_firstMonth.mpr (hasDay_iff.mp ((hasDay_unitStart h).mp (hstart.2 h)))
      have hper : 1 ≤ monthsPer u := by
        unfold monthsPer
        split <;> omega
      have hreach : Reaches u (unitStop u x.toInt) ↔
          HasMonth (firstMonth u (monthOf (x.toInt / dayMillis)) + monthsPer u) := by
        simp only [unitStop, h]
        rw [← hasDay_monthStart]
        exact ⟨fun hr => hr.2 h, reaches_of_hasDay⟩
      rw [hreach]
      simp only [NextMissing, unitStop, h, day_monthStart, Date.ofDay, Date.year,
        monthOf_monthStart]
      unfold HasMonth at *
      omega

theorem roundDown_fails_iff : (∃ fault, roundDown x u = .error fault) ↔ StartMissing u x := by
  rw [exists_error_iff, ← not_reaches_unitStart, ← exists_roundDown_iff, not_exists]

theorem roundUp_fails_iff :
    (∃ fault, roundUp x u = .error fault) ↔ StartMissing u x ∨ NextMissing u x := by
  rw [exists_error_iff, ← not_exists, exists_roundUp_iff, ← not_reaches_unitStart]
  by_cases hstart : Reaches u (unitStart u x.toInt)
  · rw [← not_reaches_unitStop hstart]
    simp only [hstart, true_and, not_true_eq_false, false_or]
  · simp only [hstart, false_and, not_false_eq_true, true_or]

/-! ## The partition -/

theorem exists_next (hp : roundUp x u = .ok p) :
    ∃ next : Instant, next.toInt = p.toInt + 1 ∧ roundDown next u = .ok next := by
  obtain ⟨hp, -, hstop⟩ := roundUp_eq_ok_iff.mp hp
  obtain ⟨next, hnext⟩ := Instant.exists_toInt_eq hstop.1
  have hbegins : unitStart u next.toInt = next.toInt := by
    rw [hnext]
    exact begins_iff.mp (begins_unitStop u x.toInt)
  refine ⟨next, by omega, roundDown_eq_ok_iff.mpr ⟨hbegins.symm, ?_⟩⟩
  rw [hbegins, hnext]
  exact hstop

section Partition

variable (hd : roundDown x u = .ok d) (hp : roundUp x u = .ok p)

include hd hp

theorem roundDown_eq_iff_between : roundDown y u = .ok d ↔ d ≤ y ∧ y ≤ p := by
  obtain ⟨hd, hstart⟩ := roundDown_eq_ok_iff.mp hd
  obtain ⟨hp, -⟩ := roundUp_eq_ok_iff.mp hp
  have hunit := unitStart_eq_iff (u := u) (m := y.toInt) (n := x.toInt)
  rw [roundDown_eq_ok_iff, Instant.le_def, Instant.le_def]
  constructor
  · rintro ⟨hy, -⟩
    have hin := hunit.mp (hy.symm.trans hd)
    omega
  · rintro ⟨hdy, hyp⟩
    have hsame := hunit.mpr (by omega)
    exact ⟨hd.trans hsame.symm, hsame ▸ hstart⟩

theorem roundUp_eq_iff_between : roundUp y u = .ok p ↔ d ≤ y ∧ y ≤ p := by
  rw [← roundDown_eq_iff_between hd hp]
  obtain ⟨hd, hstart⟩ := roundDown_eq_ok_iff.mp hd
  obtain ⟨hp, -, hstop⟩ := roundUp_eq_ok_iff.mp hp
  rw [roundUp_eq_ok_iff, roundDown_eq_ok_iff]
  constructor
  · rintro ⟨hy, hystart, -⟩
    -- units that stop together start together, for the last millisecond lies in both
    have hx₀ := unitStart_le u x.toInt
    have hx₁ := lt_unitStop u x.toInt
    have hy₀ := unitStart_le u y.toInt
    have hy₁ := lt_unitStop u y.toInt
    have hlast : unitStart u p.toInt = unitStart u x.toInt := unitStart_eq_iff.mpr (by omega)
    have hlast' : unitStart u p.toInt = unitStart u y.toInt := unitStart_eq_iff.mpr (by omega)
    exact ⟨hd.trans (hlast.symm.trans hlast'), hystart⟩
  · rintro ⟨hy, hystart⟩
    have hsame : unitStop u y.toInt = unitStop u x.toInt := unitStop_congr (hy.symm.trans hd)
    exact ⟨hsame ▸ hp, hystart, hsame ▸ hstop⟩

end Partition

/-- Rounding cuts the instants into units without gap or overlap.  An instant is rounded down to
the last beginning of a unit up to it, where it stays.  If it is rounded up as well, the instants
between the two are those that are rounded as it is, down or up; what is rounded up stays, and the
next millisecond begins a unit.  Rounding down fails exactly where the unit has no start, and
rounding up there and where the next unit has none. -/
theorem rounding_partitions (u : CalendarUnit) (x : Instant) :
    IsGreatest {b | Begins u b ∧ b ≤ x.toInt} (unitStart u x.toInt) ∧
      IsLeast {b | Begins u b ∧ x.toInt < b} (unitStop u x.toInt) ∧
      (∀ d, roundDown x u = .ok d → d.toInt = unitStart u x.toInt ∧ roundDown d u = .ok d) ∧
      (∀ p, roundUp x u = .ok p → p.toInt + 1 = unitStop u x.toInt ∧ roundUp p u = .ok p ∧
        ∃ d next, roundDown x u = .ok d ∧ d ≤ x ∧ x ≤ p ∧
          (∀ y, (roundDown y u = .ok d ↔ d ≤ y ∧ y ≤ p) ∧
            (roundUp y u = .ok p ↔ d ≤ y ∧ y ≤ p)) ∧
          next.toInt = p.toInt + 1 ∧ roundDown next u = .ok next) ∧
      ((∃ fault, roundDown x u = .error fault) ↔ StartMissing u x) ∧
      ((∃ fault, roundUp x u = .error fault) ↔ StartMissing u x ∨ NextMissing u x) := by
  refine ⟨isGreatest_unitStart u x.toInt, isLeast_unitStop u x.toInt, ?_, ?_, roundDown_fails_iff,
    roundUp_fails_iff⟩
  · intro d hd
    obtain ⟨hstart, hreach⟩ := roundDown_eq_ok_iff.mp hd
    refine ⟨hstart, roundDown_eq_ok_iff.mpr ?_⟩
    rw [hstart, unitStart_unitStart]
    exact ⟨rfl, hreach⟩
  · intro p hp
    obtain ⟨hstop, hreach, -⟩ := roundUp_eq_ok_iff.mp hp
    obtain ⟨d, hd⟩ := exists_roundDown_iff.mpr hreach
    have hdx := roundDown_le hd
    have hxp := le_roundUp hp
    obtain ⟨next, hnext, hbegins⟩ := exists_next hp
    refine ⟨by omega, ?_, d, next, hd, hdx, hxp, ?_, hnext, hbegins⟩
    · exact (roundUp_eq_iff_between hd hp).mpr ⟨Int.le_trans hdx hxp, Int.le_refl _⟩
    · intro y
      exact ⟨roundDown_eq_iff_between hd hp, roundUp_eq_iff_between hd hp⟩

/-- February 1900, which had no 29th. -/
theorem rounding_partitions_february :
    roundUp ⟨-2203934400000⟩ .month = .ok ⟨-2203891200001⟩ ∧
      ∃ d next : Instant, roundDown ⟨-2203934400000⟩ .month = .ok d ∧
        (∀ y, roundDown y .month = .ok d ↔ d ≤ y ∧ y ≤ ⟨-2203891200001⟩) ∧
        next.toInt = -2203891200000 ∧ roundDown next .month = .ok next := by
  have hp : roundUp ⟨-2203934400000⟩ .month = .ok ⟨-2203891200001⟩ :=
    toOption_eq_some.mp (by decide +kernel)
  obtain ⟨-, -, d, next, hd, -, -, hbetween, hnext, hbegins⟩ :=
    (rounding_partitions .month ⟨-2203934400000⟩).2.2.2.1 _ hp
  exact ⟨hp, d, next, hd, fun y => (hbetween y).1, hnext, hbegins⟩

end Almanac.Calendar
