import Mathlib.Data.List.TakeWhile
import Mathlib.Tactic.SplitIfs
import Almanac.Proofs.Pattern.Findings
import Almanac.Proofs.Pattern.Items
import Almanac.Proofs.Reading
import Almanac.Proofs.Text.Digits
/-!
# Texts that are read by a pattern open their unit

The invariant of reading is `From`: a value is found only where the pattern has a field for it.  One
field keeps it (`read_from`), so a whole text does (`readSegments_from`).  Then the fields that the
pattern leaves out are filled in, and whatever is finer than the precision has its least value
(`LeastBelow`); that makes the date the first one of its month or year and the time of day a whole
number of its unit, and the reading opens it (`read_opens`).

A leap second is no exception.  It is written in a field of seconds, so the unit is the second or a
finer one, and it counts as one whole second more.
-/

namespace Almanac.Pattern

open Calendar

variable {items : List Item} {f g : Findings} {cs rest : List Char}

/-! ## What reading keeps -/

theorem taking_eq_ok_iff {α : Type} {take : List Char → Except Mismatch (α × List Char)}
    {set : α → Except Mismatch Findings} :
    taking take set cs = .ok (g, rest) ↔
      ∃ value, take cs = .ok (value, rest) ∧ set value = .ok g := by
  unfold taking
  simp only [bind_eq_ok, pure_eq_ok]
  constructor
  · rintro ⟨⟨value, rest'⟩, htake, g', hset, heq⟩
    cases heq
    exact ⟨value, htake, hset⟩
  · rintro ⟨value, htake, hset⟩
    exact ⟨(value, rest), htake, g, hset, rfl⟩

/-- The digits that a number takes from the start of a text. -/
def leadingDigits (most : Nat) (cs : List Char) : List Char := (cs.take most).takeWhile Char.isDigit

theorem isDigit_of_mem_leadingDigits {most : Nat} {c : Char} (h : c ∈ leadingDigits most cs) :
    c.isDigit = true :=
  List.mem_takeWhile_imp h

theorem length_leadingDigits_le (most : Nat) (cs : List Char) :
    (leadingDigits most cs).length ≤ most :=
  Nat.le_trans (List.takeWhile_sublist Char.isDigit).length_le (List.length_take_le most cs)

theorem takeNumber_eq_ok_iff {least most n : Nat} :
    takeNumber least most cs = .ok (n, rest) ↔
      least ≤ Text.byteLength cs ∧ least ≤ (leadingDigits most cs).length ∧
        Text.number (leadingDigits most cs) ≤ Word.greatest ∧
        n = Text.number (leadingDigits most cs) ∧
        rest = cs.drop (leadingDigits most cs).length := by
  have hdigits : (cs.take most).takeWhile Char.isDigit = leadingDigits most cs := rfl
  simp only [takeNumber, hdigits]
  split_ifs with h₁ h₂ h₃
  · simp only [false_iff]
    omega
  · simp only [false_iff]
    omega
  · simp only [false_iff]
    omega
  · simp only [Except.ok.injEq, Prod.mk.injEq, Nat.le_of_not_lt h₁, Nat.le_of_not_lt h₂,
      Int.not_lt.mp h₃, true_and, eq_comm]

theorem takeNumber_lt {least most n : Nat} (h : takeNumber least most cs = .ok (n, rest)) :
    n < powerOfTen most := by
  obtain ⟨-, -, -, rfl, -⟩ := takeNumber_eq_ok_iff.mp h
  refine Nat.lt_of_lt_of_le (Text.number_lt fun c => isDigit_of_mem_leadingDigits) ?_
  exact Nat.pow_le_pow_right (by decide) (length_leadingDigits_le most cs)

theorem takeFraction_lt {digits n : Nat} (hdigits : digits ≤ 9)
    (h : takeFraction digits cs = .ok (n, rest)) : n < 1000000000 := by
  obtain ⟨⟨number, rest'⟩, hnumber, h⟩ := bind_eq_ok.mp h
  obtain ⟨rfl, -⟩ := Prod.mk.inj (pure_eq_ok.mp h)
  have hpow : powerOfTen digits * powerOfTen (9 - digits) = 1000000000 := by
    show 10 ^ digits * 10 ^ (9 - digits) = 10 ^ 9
    rw [← Nat.pow_add, Nat.add_sub_cancel' hdigits]
  rw [← hpow]
  exact Nat.mul_lt_mul_of_pos_right (takeNumber_lt hnumber) (powerOfTen_pos _)

/-- Findings of which the hour, the second and the fraction come from fields of a pattern. -/
structure Findings.From (items : List Item) (f : Findings) : Prop where
  hour : f.hourInHalf ≠ none → has items (fun k => isHour k || isClockHour k) = true
  second : f.second ≠ none → has items (· = .second) = true
  nanos : f.nanos ≠ none → has items (fun k => k.unit? = some .millisecond) = true
  nanos_lt : ∀ n, f.nanos = some n → n < 1000000000

theorem from_empty : Findings.From items {} :=
  ⟨fun h => absurd rfl h, fun h => absurd rfl h, fun h => absurd rfl h, nofun⟩

/-- One field keeps the invariant. -/
theorem read_from {k : Field} (hk : .field k ∈ items)
    (hdigits : ∀ digits, k = .fraction digits → digits ≤ 9) (hf : f.From items)
    (h : k.read f cs = .ok (g, rest)) : g.From items := by
  obtain ⟨hhour, hsecond, hnanos, hlt⟩ := hf
  -- the invariant is about the hour, the second and the fraction: the other fields leave it alone
  cases k with
  | year =>
      obtain ⟨value, -, h⟩ := taking_eq_ok_iff.mp h
      obtain ⟨-, -, rfl⟩ := Findings.setYear_eq_ok_iff.mp h
      exact ⟨hhour, hsecond, hnanos, hlt⟩
  | yearOfCentury =>
      obtain ⟨value, -, h⟩ := taking_eq_ok_iff.mp h
      obtain ⟨-, -, -, rfl⟩ := Findings.setYearOfCentury_eq_ok_iff.mp h
      exact ⟨hhour, hsecond, hnanos, hlt⟩
  | month =>
      obtain ⟨value, -, h⟩ := taking_eq_ok_iff.mp h
      obtain ⟨-, -, -, rfl⟩ := Findings.setMonth_eq_ok_iff.mp h
      exact ⟨hhour, hsecond, hnanos, hlt⟩
  | monthName long =>
      simp only [Field.read] at h
      obtain ⟨value, -, h⟩ := taking_eq_ok_iff.mp h
      obtain ⟨-, -, -, rfl⟩ := Findings.setMonth_eq_ok_iff.mp h
      exact ⟨hhour, hsecond, hnanos, hlt⟩
  | day =>
      obtain ⟨value, -, h⟩ := taking_eq_ok_iff.mp h
      obtain ⟨-, -, -, rfl⟩ := Findings.setDay_eq_ok_iff.mp h
      exact ⟨hhour, hsecond, hnanos, hlt⟩
  | weekdayName long =>
      obtain ⟨value, -, h⟩ := taking_eq_ok_iff.mp h
      obtain ⟨-, rfl⟩ := Findings.setWeekday_eq_ok_iff.mp h
      exact ⟨hhour, hsecond, hnanos, hlt⟩
  | hour =>
      obtain ⟨value, -, h⟩ := taking_eq_ok_iff.mp h
      obtain ⟨-, -, -, rfl⟩ := Findings.setHour_eq_ok_iff.mp h
      exact ⟨fun _ => has_iff.mpr ⟨.hour, hk, rfl⟩, hsecond, hnanos, hlt⟩
  | clockHour =>
      obtain ⟨value, -, h⟩ := taking_eq_ok_iff.mp h
      obtain ⟨-, -, -, rfl⟩ := Findings.setClockHour_eq_ok_iff.mp h
      exact ⟨fun _ => has_iff.mpr ⟨.clockHour, hk, rfl⟩, hsecond, hnanos, hlt⟩
  | half =>
      obtain ⟨value, -, h⟩ := taking_eq_ok_iff.mp h
      obtain ⟨-, rfl⟩ := Findings.setHalf_eq_ok_iff.mp h
      exact ⟨hhour, hsecond, hnanos, hlt⟩
  | minute =>
      obtain ⟨value, -, h⟩ := taking_eq_ok_iff.mp h
      obtain ⟨-, -, -, rfl⟩ := Findings.setMinute_eq_ok_iff.mp h
      exact ⟨hhour, hsecond, hnanos, hlt⟩
  | second =>
      obtain ⟨value, -, h⟩ := taking_eq_ok_iff.mp h
      obtain ⟨-, -, -, rfl⟩ := Findings.setSecond_eq_ok_iff.mp h
      exact ⟨hhour, fun _ => has_iff.mpr ⟨.second, hk, rfl⟩, hnanos, hlt⟩
  | fraction digits =>
      obtain ⟨value, htake, h⟩ := taking_eq_ok_iff.mp h
      obtain ⟨-, rfl⟩ := Findings.setNanos_eq_ok_iff.mp h
      refine ⟨hhour, hsecond, fun _ => has_iff.mpr ⟨.fraction digits, hk, rfl⟩, ?_⟩
      rintro n hn
      obtain rfl := Option.some.inj hn
      exact takeFraction_lt (hdigits digits rfl) htake
  | offset colon =>
      obtain ⟨value, -, h⟩ := taking_eq_ok_iff.mp h
      obtain ⟨-, rfl⟩ := Findings.setOffset_eq_ok_iff.mp h
      exact ⟨hhour, hsecond, hnanos, hlt⟩

/-- A whole text keeps the invariant. -/
theorem readSegments_from : ∀ {segs : List Segment} {f : Findings} {cs : List Char},
    (∀ k, .field k ∈ segs → .field k ∈ items) →
      (∀ digits, .field (.fraction digits) ∈ items → digits ≤ 9) → f.From items →
        readSegments f segs cs = .ok g → g.From items
  | [], f, [], _, _, hf, h => by
      cases h
      exact hf
  | [], f, _ :: _, _, _, _, h => nomatch h
  | s :: segs, f, cs, hmem, hdigits, hf, h => by
      obtain ⟨⟨f', rest⟩, hs, h⟩ := bind_eq_ok.mp h
      have hmem' : ∀ k, .field k ∈ segs → .field k ∈ items :=
        fun k hk => hmem k (List.mem_cons_of_mem s hk)
      refine readSegments_from hmem' hdigits ?_ h
      cases s with
      | field k =>
          have hk := hmem k List.mem_cons_self
          exact read_from hk (fun digits hd => hdigits digits (hd ▸ hk)) hf hs
      | blanks =>
          obtain ⟨rfl, -⟩ := Prod.mk.inj (Except.ok.inj hs)
          exact hf
      | literal text =>
          obtain ⟨rest', -, hs⟩ := bind_eq_ok.mp hs
          obtain ⟨rfl, -⟩ := Prod.mk.inj (pure_eq_ok.mp hs)
          exact hf

/-! ## Filling in -/

/-- A field that is left out puts its value into its place, and a field that is there leaves the
place as it is. -/
theorem unlessHas_eq_ok_iff {α : Type} {kind : Field → Bool}
    {set : Findings → Except Mismatch Findings} {P : Prop} (put : α → Findings) (place value : α)
    (hplace : f = put place) (hset : set f = .ok g ↔ P ∧ g = put value) :
    unlessHas items kind set f = .ok g ↔
      (has items kind = false → P) ∧ g = put (if has items kind then place else value) := by
  unfold unlessHas
  cases has items kind with
  | true => simp [hplace, eq_comm]
  | false => simp [hset]

theorem fillHalf_eq_ok_iff :
    fillHalf items f = .ok g ↔
      ((has items isClockHour && !has items isHalf) = true → Findings.Takes f.half 0) ∧
        g = { f with
          half := if has items isClockHour && !has items isHalf then some 0 else f.half } := by
  unfold fillHalf
  cases has items isClockHour && !has items isHalf with
  | true => simp [Findings.setHalf_eq_ok_iff]
  | false =>
      simp only [Bool.false_eq_true, if_false, false_implies, true_and, Except.ok.injEq]
      exact eq_comm

/-- Whether a field has to do with the hour. -/
def isHourly (k : Field) : Bool := isHour k || isClockHour k || isHalf k

/-- Findings with the least value in the place of each field that the pattern leaves out. -/
def Findings.filled (items : List Item) (f : Findings) : Findings :=
  { f with
    year := if has items isYear then f.year else some 1970
    month := if has items isMonth then f.month else some 1
    day := if has items isDay then f.day else some 1
    half :=
      if has items isHourly then
        if has items isClockHour && !has items isHalf then some 0 else f.half
      else some 0
    hourInHalf := if has items isHourly then f.hourInHalf else some 0
    minute := if has items isMinute then f.minute else some 0 }

/-- Findings in which nothing stands in the way of the least values. -/
structure Fillable (items : List Item) (f : Findings) : Prop where
  year : has items isYear = false → Findings.Takes f.year 1970
  month : has items isMonth = false → Findings.Takes f.month 1
  day : has items isDay = false → Findings.Takes f.day 1
  half : (has items isClockHour && !has items isHalf) = true → Findings.Takes f.half 0
  hour : has items isHourly = false →
    Findings.Takes (if has items isClockHour && !has items isHalf then some 0 else f.half) 0 ∧
      Findings.Takes f.hourInHalf 0
  minute : has items isMinute = false → Findings.Takes f.minute 0

theorem fillDefaults_eq_ok_iff :
    fillDefaults items f = .ok g ↔ Fillable items f ∧ g = f.filled items := by
  -- each step sets one field, unless the pattern has it
  have hyear : ∀ f g, unlessHas items isYear (·.setYear 1970) f = .ok g ↔
      (has items isYear = false → Findings.Takes f.year 1970) ∧
        g = { f with year := if has items isYear then f.year else some 1970 } :=
    fun f g => unlessHas_eq_ok_iff (fun year => { f with year := year }) _ _ rfl
      (by simp [Findings.setYear_eq_ok_iff])
  have hmonth : ∀ f g, unlessHas items isMonth (·.setMonth 1) f = .ok g ↔
      (has items isMonth = false → Findings.Takes f.month 1) ∧
        g = { f with month := if has items isMonth then f.month else some 1 } :=
    fun f g => unlessHas_eq_ok_iff (fun month => { f with month := month }) _ _ rfl
      (by simp [Findings.setMonth_eq_ok_iff])
  have hday : ∀ f g, unlessHas items isDay (·.setDay 1) f = .ok g ↔
      (has items isDay = false → Findings.Takes f.day 1) ∧
        g = { f with day := if has items isDay then f.day else some 1 } :=
    fun f g => unlessHas_eq_ok_iff (fun day => { f with day := day }) _ _ rfl
      (by simp [Findings.setDay_eq_ok_iff])
  have hminute : ∀ f g, unlessHas items isMinute (·.setMinute 0) f = .ok g ↔
      (has items isMinute = false → Findings.Takes f.minute 0) ∧
        g = { f with minute := if has items isMinute then f.minute else some 0 } :=
    fun f g => unlessHas_eq_ok_iff (fun minute => { f with minute := minute }) _ _ rfl
      (by simp [Findings.setMinute_eq_ok_iff])
  have hhour : ∀ f g, unlessHas items isHourly (·.setHour 0) f = .ok g ↔
      (has items isHourly = false → Findings.Takes f.half 0 ∧ Findings.Takes f.hourInHalf 0) ∧
        g = { f with
          half := if has items isHourly then f.half else some 0
          hourInHalf := if has items isHourly then f.hourInHalf else some 0 } := by
    intro f g
    rw [unlessHas_eq_ok_iff (P := Findings.Takes f.half 0 ∧ Findings.Takes f.hourInHalf 0)
      (fun hour : Option Nat × Option Nat => { f with half := hour.1, hourInHalf := hour.2 })
      (f.half, f.hourInHalf) (some 0, some 0) rfl (by simp [Findings.setHour_eq_ok_iff, and_assoc])]
    cases has items isHourly <;> rfl
  show (do
    let f ← unlessHas items isYear (·.setYear 1970) f
    let f ← unlessHas items isMonth (·.setMonth 1) f
    let f ← unlessHas items isDay (·.setDay 1) f
    let f ← fillHalf items f
    let f ← unlessHas items isHourly (·.setHour 0) f
    unlessHas items isMinute (·.setMinute 0) f) = .ok g ↔ _
  simp only [bind_eq_ok, hyear, hmonth, hday, fillHalf_eq_ok_iff, hhour, hminute]
  constructor
  · rintro ⟨_, ⟨hy, rfl⟩, _, ⟨hm, rfl⟩, _, ⟨hd, rfl⟩, _, ⟨hh, rfl⟩, _, ⟨hr, rfl⟩, hn, rfl⟩
    exact ⟨⟨hy, hm, hd, hh, hr, hn⟩, rfl⟩
  · rintro ⟨⟨hy, hm, hd, hh, hr, hn⟩, rfl⟩
    exact ⟨_, ⟨hy, rfl⟩, _, ⟨hm, rfl⟩, _, ⟨hd, rfl⟩, _, ⟨hh, rfl⟩, _, ⟨hr, rfl⟩, hn, rfl⟩

/-! ## What is finer than the precision -/

/-- Findings in which whatever is finer than a unit has its least value, or is not there. -/
structure LeastBelow (u : CalendarUnit) (g : Findings) : Prop where
  month : ¬ .month ≤ u → g.month = some 1
  day : ¬ .day ≤ u → g.day = some 1
  hour : ¬ .hour ≤ u → g.hourInHalf ≠ none → g.half = some 0 ∧ g.hourInHalf = some 0
  minute : ¬ .minute ≤ u → g.minute = some 0
  second : ¬ .second ≤ u → g.second = none
  nanos : ¬ .millisecond ≤ u → g.nanos = none
  nanos_lt : ∀ n, g.nanos = some n → n < 1000000000

theorem leastBelow_filled {p : Pattern} (hp : p.Compiled) (hf : f.From p.items) :
    LeastBelow p.precision (f.filled p.items) := by
  refine ⟨?_, ?_, ?_, ?_, ?_, ?_, hf.nanos_lt⟩
  · intro hu
    refine if_neg (Bool.eq_false_iff.mp (hp.has_eq_false fun k hk => ⟨.month, ?_, hu⟩))
    cases k <;> first | rfl | cases hk
  · intro hu
    refine if_neg (Bool.eq_false_iff.mp (hp.has_eq_false fun k hk => ⟨.day, ?_, hu⟩))
    cases k <;> first | rfl | cases hk
  · intro hu hsome
    have hno : has p.items (fun k => isHour k || isClockHour k) = false := by
      refine hp.has_eq_false fun k hk => ⟨.hour, ?_, hu⟩
      cases k <;> first | rfl | cases hk
    cases hhourly : has p.items isHourly with
    | false =>
        simp only [Findings.filled, hhourly]
        exact ⟨rfl, rfl⟩
    | true =>
        -- a half of the day without an hour says nothing about the hour
        simp only [Findings.filled, hhourly, if_true] at hsome
        cases hno.symm.trans (hf.hour hsome)
  · intro hu
    refine if_neg (Bool.eq_false_iff.mp (hp.has_eq_false fun k hk => ⟨.minute, ?_, hu⟩))
    cases k <;> first | rfl | cases hk
  · intro hu
    show f.second = none
    by_contra hsome
    have hno : has p.items (· = .second) = false := by
      refine hp.has_eq_false fun k hk => ⟨.second, ?_, hu⟩
      cases k <;> first | rfl | cases hk
    cases hno.symm.trans (hf.second hsome)
  · intro hu
    show f.nanos = none
    by_contra hsome
    have hno : has p.items (fun k => k.unit? = some .millisecond) = false :=
      hp.has_eq_false fun k hk => ⟨.millisecond, of_decide_eq_true hk, hu⟩
    cases hno.symm.trans (hf.nanos hsome)

/-! ## Date and time -/

theorem date_eq_ok_iff {date : Date} :
    g.date = .ok date ↔
      ∃ year month day, g.fullYear = .ok year ∧ g.month = some month ∧ g.day = some day ∧
        Date.of? year month day = some date ∧
        g.weekday.all (· = weekdayOf date.toDay) = true := by
  unfold Findings.date
  rw [bind_eq_ok]
  constructor
  · rintro ⟨year, hyear, h⟩
    split at h
    · next month day hmonth hday =>
      split at h
      · cases h
      · next d hd =>
        split at h
        · next hweekday =>
          cases h
          exact ⟨year, month, day, hyear, hmonth, hday, hd, hweekday⟩
        · cases h
    · cases h
  · rintro ⟨year, month, day, hyear, hmonth, hday, hd, hweekday⟩
    refine ⟨year, hyear, ?_⟩
    simp only [hmonth, hday, hd, if_pos hweekday]

theorem clockTime_eq_ok_iff {time : Findings.ClockTime} :
    g.clockTime = .ok time ↔
      ∃ half hour minute, g.half = some half ∧ g.hourInHalf = some hour ∧ g.minute = some minute ∧
        (g.second = none → g.nanos = none) ∧
        time = ⟨((half * 12 + hour) * 60 + minute) * 60
            + (Findings.secondParts (g.second.getD 0)).1,
          (Findings.secondParts (g.second.getD 0)).2 + g.nanos.getD 0 / 1000000⟩ := by
  unfold Findings.clockTime
  cases g.half with
  | none => simp
  | some half =>
      cases g.hourInHalf with
      | none => simp
      | some hour =>
          cases g.minute with
          | none => simp
          | some minute =>
              cases g.second <;> cases g.nanos <;> simp [eq_comm]

theorem secondParts_bounds (second : Nat) :
    (Findings.secondParts second).2 = 0 ∨ (Findings.secondParts second).2 = 1000 := by
  unfold Findings.secondParts
  split
  · exact Or.inr rfl
  · exact Or.inl rfl

variable {u : CalendarUnit} {time : Findings.ClockTime} {date : Date}

theorem LeastBelow.millis_lt (h : LeastBelow u g) (ht : g.clockTime = .ok time) :
    time.millis < 2000 := by
  obtain ⟨half, hour, minute, -, -, -, -, rfl⟩ := clockTime_eq_ok_iff.mp ht
  have hleap := secondParts_bounds (g.second.getD 0)
  have hnanos : g.nanos.getD 0 < 1000000000 := by
    cases hn : g.nanos with
    | none => decide
    | some n => exact h.nanos_lt n hn
  show (Findings.secondParts (g.second.getD 0)).2 + g.nanos.getD 0 / 1000000 < 2000
  omega

theorem LeastBelow.midnight (h : LeastBelow u g) (hu : ¬ .hour ≤ u)
    (ht : g.clockTime = .ok time) : time = ⟨0, 0⟩ := by
  obtain ⟨half, hour, minute, hhalf, hhour, hminute, -, rfl⟩ := clockTime_eq_ok_iff.mp ht
  have hlt : u.rank < 3 := Nat.lt_of_not_le hu
  obtain ⟨hhalf₀, hhour₀⟩ := h.hour hu (by rw [hhour]; nofun)
  have hminute₀ := h.minute (fun hle => by have : 4 ≤ u.rank := hle; omega)
  have hsecond₀ := h.second (fun hle => by have : 5 ≤ u.rank := hle; omega)
  have hnanos₀ := h.nanos (fun hle => by have : 6 ≤ u.rank := hle; omega)
  rw [hhalf] at hhalf₀
  rw [hhour] at hhour₀
  rw [hminute] at hminute₀
  rw [hsecond₀, hnanos₀, Option.some.inj hhalf₀, Option.some.inj hhour₀, Option.some.inj hminute₀]
  rfl

/-- The time of day is a whole number of its unit. -/
theorem LeastBelow.time_whole (h : LeastBelow u g) (ht : g.clockTime = .ok time) {length : Int64}
    (hu : u.fixedMillis? = some length) :
    ((time.seconds * 1000 + time.millis : Nat) : Int) % length.toInt = 0 := by
  obtain ⟨half, hour, minute, hhalf, hhour, hminute, -, htime⟩ := clockTime_eq_ok_iff.mp ht
  cases u with
  | year => cases hu
  | month => cases hu
  | day =>
      rw [h.midnight (by decide) ht]
      cases hu
      decide
  | hour =>
      have hminute₀ : minute = 0 := Option.some.inj (hminute.symm.trans (h.minute (by decide)))
      rw [h.second (by decide), h.nanos (by decide), hminute₀] at htime
      cases hu
      rw [htime]
      show ((((half * 12 + hour) * 60 + 0) * 60 + 0) * 1000 + 0 : Nat) % (3600000 : Int) = 0
      omega
  | minute =>
      rw [h.second (by decide), h.nanos (by decide)] at htime
      cases hu
      rw [htime]
      show ((((half * 12 + hour) * 60 + minute) * 60 + 0) * 1000 + 0 : Nat) % (60000 : Int) = 0
      omega
  | second =>
      rw [h.nanos (by decide)] at htime
      -- a leap second is one second more after the 59th, and so a whole one as well
      have hleap := secondParts_bounds (g.second.getD 0)
      cases hu
      rw [htime]
      show (((((half * 12 + hour) * 60 + minute) * 60 + (Findings.secondParts _).1) * 1000
        + ((Findings.secondParts _).2 + 0) : Nat) : Int) % (1000 : Int) = 0
      omega
  | millisecond =>
      cases hu
      exact Int.emod_one _

theorem LeastBelow.month_start (h : LeastBelow u g) (hd : g.date = .ok date)
    (ht : g.clockTime = .ok time) (hu : u.fixedMillis? = none) :
    date.toDay = monthStart date.monthIndex ∧ firstMonth u date.monthIndex = date.monthIndex ∧
      time = ⟨0, 0⟩ := by
  obtain ⟨year, month, day, -, hmonth, hday, hdate, -⟩ := date_eq_ok_iff.mp hd
  obtain ⟨-, -, -, hindex, hd⟩ := Date.of?_eq_some_iff.mp hdate
  cases u with
  | year =>
      obtain rfl : month = 1 := Option.some.inj (hmonth.symm.trans (h.month (by decide)))
      obtain rfl : day = 1 := Option.some.inj (hday.symm.trans (h.day (by decide)))
      refine ⟨?_, ?_, h.midnight (by decide) ht⟩
      · unfold Date.toDay
        omega
      · unfold firstMonth
        rw [if_pos rfl]
        omega
  | month =>
      obtain rfl : day = 1 := Option.some.inj (hday.symm.trans (h.day (by decide)))
      refine ⟨?_, if_neg (by decide), h.midnight (by decide) ht⟩
      unfold Date.toDay
      omega
  | day | hour | minute | second | millisecond => cases hu

/-! ## The reading -/

theorem onClock_eq_ok_iff {offset millis : Int} :
    onClock date time offset = .ok millis ↔
      (-daySeconds < offset ∧ offset < daySeconds) ∧
        HasDay ((date.toDay * daySeconds + time.seconds - offset) / daySeconds) ∧
        millis = (date.toDay * daySeconds + time.seconds - offset) * 1000 + time.millis := by
  simp only [onClock]
  by_cases hoffset : offset ≤ -daySeconds ∨ daySeconds ≤ offset
  · simp only [if_pos hoffset, reduceCtorEq, false_iff]
    omega
  · have hoffset' : -daySeconds < offset ∧ offset < daySeconds := by omega
    simp only [if_neg hoffset, hoffset', true_and]
    by_cases hday : HasDay ((date.toDay * daySeconds + time.seconds - offset) / daySeconds)
    · rw [if_pos hday, Except.ok.injEq, eq_comm]
      exact ⟨fun h => ⟨hday, h⟩, And.right⟩
    · rw [if_neg hday]
      exact ⟨nofun, fun h => absurd h.1 hday⟩

theorem readParts_eq_ok_iff {p : Pattern} {text : List Char} {millis offset : Int} :
    p.readParts text = .ok (millis, offset) ↔
      ∃ f g date time, readSegments {} (segments p.items) text = .ok f ∧
        fillDefaults p.items f = .ok g ∧ g.date = .ok date ∧ g.clockTime = .ok time ∧
        offset = g.offset.getD 0 ∧ onClock date time offset = .ok millis := by
  unfold readParts
  simp only [bind_eq_ok, pure_eq_ok, Prod.mk.injEq]
  constructor
  · rintro ⟨f, hf, g, hg, date, hd, time, ht, millis', hm, rfl, rfl⟩
    exact ⟨f, g, date, time, hf, hg, hd, ht, rfl, hm⟩
  · rintro ⟨f, g, date, time, hf, hg, hd, ht, rfl, hm⟩
    exact ⟨f, hf, g, hg, date, hd, time, ht, millis, hm, rfl, rfl⟩

/-- What a compiled pattern reads opens its unit on the clock of its offset. -/
theorem read_opens {p : Pattern} (hp : p.Compiled) {text : List Char} {r : Reading}
    (h : p.read text = .ok r) : r.Opens := by
  obtain ⟨⟨millis, offset⟩, hparts, h⟩ := bind_eq_ok.mp h
  obtain rfl := pure_eq_ok.mp h
  rw [mapError_eq_ok] at hparts
  obtain ⟨f, g, date, time, hf, hg, hd, ht, -, hclock⟩ := readParts_eq_ok_iff.mp hparts
  have hfrom : f.From p.items := readSegments_from (fun k => field_mem_segments.mp)
    (fun digits hmem => by have := hp.fraction digits hmem; omega) from_empty hf
  obtain ⟨-, rfl⟩ := fillDefaults_eq_ok_iff.mp hg
  have hleast := leastBelow_filled hp hfrom
  have hmillis := hleast.millis_lt ht
  obtain ⟨hoffset, hday, hmillis'⟩ := onClock_eq_ok_iff.mp hclock
  simp only [daySeconds] at hoffset hday hmillis'
  have hbounds := hday.bounds
  subst hmillis'
  -- the day bounds the milliseconds, so the word has room for them
  have hinstant : (Instant.nearest ((date.toDay * 86400 + time.seconds - offset) * 1000
      + time.millis)).toInt = (date.toDay * 86400 + time.seconds - offset) * 1000 + time.millis :=
    Instant.toInt_nearest_of_fits (Word.fits_of_near (by omega))
  have hoffset' : (Int64.ofInt (offset * 1000)).toInt = offset * 1000 :=
    Word.toInt_ofInt_of_fits (Word.fits_of_near (by omega))
  -- on the clock of its offset the reading shows the date and the time that were found
  have hshown : (Instant.nearest ((date.toDay * 86400 + time.seconds - offset) * 1000
      + time.millis)).toInt + (Int64.ofInt (offset * 1000)).toInt
      = date.toDay * dayMillis + (time.seconds * 1000 + time.millis : Nat) := by
    rw [hinstant, hoffset']
    unfold dayMillis
    omega
  refine ⟨?_, ?_, ?_, ?_⟩
  · show unitStart p.precision (_ + _) = _ + _
    rw [hshown]
    cases hu : p.precision.fixedMillis? with
    | some length => exact unitStart_day_add hu (hleast.time_whole ht hu)
    | none =>
        obtain ⟨hfirst, hmonth, rfl⟩ := hleast.month_start hd ht hu
        rw [hfirst]
        show unitStart p.precision (_ + 0) = _ + 0
        rw [Int.add_zero]
        exact unitStart_monthStart hu hmonth
  · intro hu
    show HasDay ((_ + _) / dayMillis)
    obtain ⟨hfirst, -, rfl⟩ := hleast.month_start hd ht hu
    rw [hshown, hfirst]
    show HasDay ((_ + 0) / dayMillis)
    rw [Int.add_zero, day_monthStart, ← hfirst]
    obtain ⟨_, _, _, -, -, -, hdate, -⟩ := date_eq_ok_iff.mp hd
    exact (Date.of?_eq_some_iff.mp hdate).2.2.1.hasDay
  · show _ ≤ (Instant.nearest _).toInt ∧ (Instant.nearest _).toInt ≤ _
    omega
  · show _ ≤ (Int64.ofInt _).toInt ∧ (Int64.ofInt _).toInt ≤ _
    omega

end Almanac.Pattern
