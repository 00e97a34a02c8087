import Almanac.Pattern.Findings
import Almanac.Proofs.Outcome
/-!
# What adding a value does

One equivalence for each way of adding a value to findings: the value is in its range, nothing else
has been found in its place, and then that place, and no other, holds it.  Later proofs read
findings through these alone.
-/

namespace Almanac.Pattern.Findings

variable {f g : Findings}

/-- A place that can take a value: it is empty or has that value already. -/
def Takes {α : Type} (place : Option α) (value : α) : Prop := place = none ∨ place = some value

theorem agree_eq_ok_iff {α : Type} [DecidableEq α] {place new : Option α} {value : α} :
    agree place value = .ok new ↔ Takes place value ∧ new = some value := by
  cases place with
  | none => simp [agree, Takes, eq_comm]
  | some v =>
      by_cases h : v = value
      · simp [agree, Takes, h, eq_comm]
      · simp [agree, Takes, h]

theorem inRange_eq_ok_iff {low high value n : Nat} :
    inRange low high value = .ok n ↔ low ≤ value ∧ value ≤ high ∧ n = value := by
  by_cases h : low ≤ value ∧ value ≤ high
  · simp [inRange, h, eq_comm]
  · simp only [inRange, if_neg h, reduceCtorEq, false_iff]
    exact fun hc => h ⟨hc.1, hc.2.1⟩

section Place

variable {α : Type} [DecidableEq α] {place : Option α} {put : Option α → Findings}

theorem put_eq_ok_iff {value : α} :
    (do return put (← agree place value)) = .ok g ↔ Takes place value ∧ g = put (some value) := by
  rw [bind_eq_ok]
  constructor
  · rintro ⟨new, hnew, hg⟩
    obtain ⟨htakes, rfl⟩ := agree_eq_ok_iff.mp hnew
    exact ⟨htakes, (pure_eq_ok.mp hg).symm⟩
  · rintro ⟨htakes, rfl⟩
    exact ⟨some value, agree_eq_ok_iff.mpr ⟨htakes, rfl⟩, rfl⟩

theorem putInRange_eq_ok_iff {place : Option Nat} {put : Option Nat → Findings}
    {low high value : Nat} :
    (do return put (← agree place (← inRange low high value))) = .ok g ↔
      low ≤ value ∧ value ≤ high ∧ Takes place value ∧ g = put (some value) := by
  rw [bind_eq_ok]
  simp only [inRange_eq_ok_iff, put_eq_ok_iff]
  constructor
  · rintro ⟨n, ⟨hlow, hhigh, rfl⟩, h⟩
    exact ⟨hlow, hhigh, h⟩
  · rintro ⟨hlow, hhigh, h⟩
    exact ⟨value, ⟨hlow, hhigh, rfl⟩, h⟩

end Place

/-! ## One equivalence for each way -/

theorem setYear_eq_ok_iff {value : Int} :
    f.setYear value = .ok g ↔ (-2147483648 ≤ value ∧ value ≤ 2147483647) ∧ Takes f.year value ∧
      g = { f with year := some value } := by
  unfold setYear
  split
  · next h =>
    simp only [h, and_self, true_and]
    exact put_eq_ok_iff
  · next h => simp only [h, reduceCtorEq, false_and]

theorem setYearOfCentury_eq_ok_iff {value : Nat} :
    f.setYearOfCentury value = .ok g ↔ 0 ≤ value ∧ value ≤ 99 ∧ Takes f.yearOfCentury value ∧
      g = { f with yearOfCentury := some value } :=
  putInRange_eq_ok_iff

theorem setMonth_eq_ok_iff {value : Nat} :
    f.setMonth value = .ok g ↔ 1 ≤ value ∧ value ≤ 12 ∧ Takes f.month value ∧
      g = { f with month := some value } :=
  putInRange_eq_ok_iff

theorem setDay_eq_ok_iff {value : Nat} :
    f.setDay value = .ok g ↔ 1 ≤ value ∧ value ≤ 31 ∧ Takes f.day value ∧
      g = { f with day := some value } :=
  putInRange_eq_ok_iff

theorem setWeekday_eq_ok_iff {value : Nat} :
    f.setWeekday value = .ok g ↔ Takes f.weekday value ∧ g = { f with weekday := some value } :=
  put_eq_ok_iff

theorem setHalf_eq_ok_iff {value : Nat} :
    f.setHalf value = .ok g ↔ Takes f.half value ∧ g = { f with half := some value } :=
  put_eq_ok_iff

theorem setHourInHalf_eq_ok_iff {value : Nat} :
    f.setHourInHalf value = .ok g ↔
      Takes f.hourInHalf value ∧ g = { f with hourInHalf := some value } :=
  put_eq_ok_iff

theorem setHour_eq_ok_iff {value : Nat} :
    f.setHour value = .ok g ↔ value ≤ 23 ∧ Takes f.half (value / 12) ∧
      Takes f.hourInHalf (value % 12) ∧
      g = { f with half := some (value / 12), hourInHalf := some (value % 12) } := by
  unfold setHour
  simp only [bind_eq_ok, inRange_eq_ok_iff, setHalf_eq_ok_iff, setHourInHalf_eq_ok_iff]
  constructor
  · rintro ⟨hour, ⟨-, hle, rfl⟩, g', ⟨hhalf, rfl⟩, hhour, rfl⟩
    exact ⟨hle, hhalf, hhour, rfl⟩
  · rintro ⟨hle, hhalf, hhour, rfl⟩
    exact ⟨value, ⟨Nat.zero_le _, hle, rfl⟩, _, ⟨hhalf, rfl⟩, hhour, rfl⟩

theorem setClockHour_eq_ok_iff {value : Nat} :
    f.setClockHour value = .ok g ↔ 1 ≤ value ∧ value ≤ 12 ∧ Takes f.hourInHalf (value % 12) ∧
      g = { f with hourInHalf := some (value % 12) } := by
  unfold setClockHour
  simp only [bind_eq_ok, inRange_eq_ok_iff, setHourInHalf_eq_ok_iff]
  constructor
  · rintro ⟨hour, ⟨hlow, hhigh, rfl⟩, h⟩
    exact ⟨hlow, hhigh, h⟩
  · rintro ⟨hlow, hhigh, h⟩
    exact ⟨value, ⟨hlow, hhigh, rfl⟩, h⟩

theorem setMinute_eq_ok_iff {value : Nat} :
    f.setMinute value = .ok g ↔ 0 ≤ value ∧ value ≤ 59 ∧ Takes f.minute value ∧
      g = { f with minute := some value } :=
  putInRange_eq_ok_iff

theorem setSecond_eq_ok_iff {value : Nat} :
    f.setSecond value = .ok g ↔ 0 ≤ value ∧ value ≤ 60 ∧ Takes f.second value ∧
      g = { f with second := some value } :=
  putInRange_eq_ok_iff

theorem setNanos_eq_ok_iff {value : Nat} :
    f.setNanos value = .ok g ↔ Takes f.nanos value ∧ g = { f with nanos := some value } :=
  put_eq_ok_iff

theorem setOffset_eq_ok_iff {value : Int} :
    f.setOffset value = .ok g ↔ Takes f.offset value ∧ g = { f with offset := some value } :=
  put_eq_ok_iff

end Almanac.Pattern.Findings
