import Almanac.Proofs.Calendar.Months
import Almanac.Proofs.Outcome
/-!
# Units as intervals of milliseconds

Every calendar unit cuts the line of milliseconds into intervals without gap or overlap.
`unitStart u n` and `unitStop u n` are the ends of the interval that `n` lies in, the first
millisecond of its unit and the first one after it, as integers without bounds; `unitStart_eq_iff`
says that this is a partition.

The operations of the calendar are these two functions where the result is representable.  A
rounding down is `unitStart`, a rounding up is `unitStop` less one (`roundDown_eq_ok_iff`,
`roundUp_eq_ok_iff`), and `endOfUnit` gives the latter from the first millisecond of a unit
(`endOfUnit_eq_ok_iff`).  `Reaches` is what "representable" means: a word holds the millisecond, and
months and years stay in the supported calendar.
-/

namespace Almanac.Calendar

variable {u : CalendarUnit} {m n : Int}

/-! ## The intervals -/

/-- The number of months in a month or a year. -/
def monthsPer (u : CalendarUnit) : Int := if u = .year then 12 else 1

/-- The first millisecond of the unit that a millisecond lies in. -/
def unitStart (u : CalendarUnit) (n : Int) : Int :=
  match u.fixedMillis? with
  | some length => n - n % length.toInt
  | none => monthStart (firstMonth u (monthOf (n / dayMillis))) * dayMillis

/-- The first millisecond of the unit after the one that a millisecond lies in. -/
def unitStop (u : CalendarUnit) (n : Int) : Int :=
  match u.fixedMillis? with
  | some length => n - n % length.toInt + length.toInt
  | none => monthStart (firstMonth u (monthOf (n / dayMillis)) + monthsPer u) * dayMillis

theorem fixedMillis_bounds {length : Int64} (h : u.fixedMillis? = some length) :
    1 ≤ length.toInt ∧ length.toInt ≤ 86400000 := by
  cases u <;> cases h <;> decide

theorem firstMonth_eq_iff {month month' : Int} :
    firstMonth u month = firstMonth u month' ↔
      firstMonth u month' ≤ month ∧ month < firstMonth u month' + monthsPer u := by
  unfold firstMonth monthsPer
  split <;> omega

theorem unitStart_fixed {length : Int64} (h : u.fixedMillis? = some length) :
    unitStart u n = n / length.toInt * length.toInt := by
  have := Int.emod_add_mul_ediv n length.toInt
  rw [Int.mul_comm] at this
  simp only [unitStart, h]
  omega

/-- Two milliseconds lie in one unit exactly if the one lies in the interval of the other. -/
theorem unitStart_eq_iff :
    unitStart u m = unitStart u n ↔ unitStart u n ≤ m ∧ m < unitStop u n := by
  cases h : u.fixedMillis? with
  | some length =>
      have hpos : 0 < length.toInt := (fixedMillis_bounds h).1
      have hstop : unitStop u n = (n / length.toInt + 1) * length.toInt := by
        have := unitStart_fixed (n := n) h
        simp only [unitStart, unitStop, h, Int.add_mul] at this ⊢
        omega
      rw [hstop, unitStart_fixed h, unitStart_fixed h, Int.mul_eq_mul_right_iff (by omega),
        ← Int.le_ediv_iff_mul_le hpos, ← Int.ediv_lt_iff_lt_mul hpos]
      omega
  | none =>
      have hday : (0 : Int) < dayMillis := by decide
      simp only [unitStart, unitStop, h]
      rw [Int.mul_eq_mul_right_iff (by decide), monthStart_inj,
        firstMonth_eq_iff, le_monthOf_iff, Int.le_ediv_iff_mul_le hday,
        ← Int.ediv_lt_iff_lt_mul hday, ← Int.not_le, le_monthOf_iff, Int.not_le]

theorem unitStart_le (u : CalendarUnit) (n : Int) : unitStart u n ≤ n :=
  (unitStart_eq_iff.mp rfl).1

theorem lt_unitStop (u : CalendarUnit) (n : Int) : n < unitStop u n :=
  (unitStart_eq_iff.mp rfl).2

@[simp] theorem unitStart_unitStart (u : CalendarUnit) (n : Int) :
    unitStart u (unitStart u n) = unitStart u n :=
  unitStart_eq_iff.mpr
    ⟨Int.le_refl _, Int.lt_of_le_of_lt (unitStart_le u n) (lt_unitStop u n)⟩

theorem unitStart_mono (u : CalendarUnit) (h : m ≤ n) : unitStart u m ≤ unitStart u n := by
  rcases Int.lt_or_le m (unitStart u n) with hlt | hle
  · exact Int.le_trans (unitStart_le u m) (Int.le_of_lt hlt)
  · exact Int.le_of_eq
      (unitStart_eq_iff.mpr ⟨hle, Int.lt_of_le_of_lt h (lt_unitStop u n)⟩)

theorem unitStop_congr (h : unitStart u m = unitStart u n) : unitStop u m = unitStop u n := by
  cases hu : u.fixedMillis? with
  | some length => simp only [unitStart, unitStop, hu] at h ⊢; omega
  | none =>
      simp only [unitStart, unitStop, hu] at h ⊢
      rw [Int.mul_eq_mul_right_iff (by decide), monthStart_inj] at h
      rw [h]

@[simp] theorem unitStop_unitStart (u : CalendarUnit) (n : Int) :
    unitStop u (unitStart u n) = unitStop u n :=
  unitStop_congr (unitStart_unitStart u n)

/-! ## What the calendar can reach

Months and years are calculated on dates, so both ends of a calculation have to lie in the supported
calendar; fixed lengths are added to the count itself, and only the word bounds them. -/

/-- A millisecond that a calculation in a unit can begin and end at. -/
def Reaches (u : CalendarUnit) (n : Int) : Prop :=
  Word.Fits n ∧ (u.fixedMillis? = none → HasDay (n / dayMillis))

theorem hasMonth_firstMonth {month : Int} : HasMonth (firstMonth u month) ↔ HasMonth month := by
  unfold HasMonth firstMonth firstYear lastYear
  split <;> omega

theorem day_monthStart (month : Int) :
    monthStart month * dayMillis / dayMillis = monthStart month :=
  Int.mul_ediv_cancel _ (by decide)

theorem hasDay_monthStart {month : Int} :
    HasDay (monthStart month * dayMillis / dayMillis) ↔ HasMonth month := by
  rw [day_monthStart, hasDay_iff, monthOf_monthStart]

theorem hasDay_unitStart (h : u.fixedMillis? = none) :
    HasDay (unitStart u n / dayMillis) ↔ HasDay (n / dayMillis) := by
  simp only [unitStart, h]
  rw [hasDay_monthStart, hasMonth_firstMonth, ← hasDay_iff]

theorem reaches_fixed {length : Int64} (h : u.fixedMillis? = some length) :
    Reaches u n ↔ Word.Fits n := by
  simp only [Reaches, h, reduceCtorEq, false_implies, and_true]

theorem reaches_of_hasDay (h : HasDay (n / dayMillis)) : Reaches u n := by
  have hbounds := h.bounds
  unfold dayMillis at hbounds
  exact ⟨Word.fits_of_near (by omega), fun _ => h⟩

/-- Wherever it starts, a unit of fixed length that holds a millisecond of the supported calendar
fits in the word. -/
theorem fits_fixed {length : Int64} (h : HasDay (n / dayMillis))
    (hu : u.fixedMillis? = some length) :
    Word.Fits (unitStart u n) ∧ Word.Fits (unitStop u n) := by
  have hbounds := h.bounds
  have hlength := fixedMillis_bounds hu
  have hmod : 0 ≤ n % length.toInt := Int.emod_nonneg n (by omega)
  have hlt : n % length.toInt < length.toInt := Int.emod_lt_of_pos n (by omega)
  unfold dayMillis at hbounds
  simp only [unitStart, unitStop, hu]
  exact ⟨Word.fits_of_near (by omega), Word.fits_of_near (by omega)⟩

theorem reaches_unitStart (h : HasDay (n / dayMillis)) : Reaches u (unitStart u n) := by
  cases hu : u.fixedMillis? with
  | some length => exact (reaches_fixed hu).mpr (fits_fixed h hu).1
  | none => exact reaches_of_hasDay ((hasDay_unitStart hu).mpr h)

/-- Long before the end of the calendar, the end of the unit can be reached too. -/
theorem reaches_unitStop (h : HasDay (n / dayMillis)) (hyear : monthOf (n / dayMillis) < 120000) :
    Reaches u (unitStop u n) := by
  cases hu : u.fixedMillis? with
  | some length => exact (reaches_fixed hu).mpr (fits_fixed h hu).2
  | none =>
      have hmonth : HasMonth (firstMonth u (monthOf (n / dayMillis)) + monthsPer u) := by
        have hfirst := hasDay_iff.mp h
        unfold HasMonth firstYear lastYear at *
        unfold firstMonth monthsPer
        split <;> omega
      apply reaches_of_hasDay
      simp only [unitStop, hu]
      exact hasDay_monthStart.mpr hmonth

/-! ## Rounding down -/

theorem roundDown_eq_ok_iff {i d : Instant} :
    roundDown i u = .ok d ↔ d.toInt = unitStart u i.toInt ∧ Reaches u (unitStart u i.toInt) := by
  have hfits : d.toInt = unitStart u i.toInt → Word.Fits (unitStart u i.toInt) :=
    fun h => h ▸ d.fits_toInt
  unfold roundDown Reaches
  rw [Instant.require_eq_ok]
  cases h : u.fixedMillis? with
  | some length =>
      simp only [Instant.ofInt?_eq_some_iff, reduceCtorEq, false_implies, and_true]
      simp only [unitStart, h] at hfits ⊢
      exact ⟨fun he => ⟨he, hfits he⟩, And.left⟩
  | none =>
      rw [hasDay_unitStart h]
      have hstart :
          monthStart (firstMonth u (monthOf i.day)) * dayMillis = unitStart u i.toInt := by
        simp only [unitStart, h, Instant.day]
      simp only [hstart, Option.ite_none_right_eq_some, Instant.ofInt?_eq_some_iff, true_implies]
      exact ⟨fun ⟨hc, he⟩ => ⟨he, hfits he, hc⟩, fun ⟨he, _, hc⟩ => ⟨hc, he⟩⟩

theorem exists_roundDown_iff {i : Instant} :
    (∃ d, roundDown i u = .ok d) ↔ Reaches u (unitStart u i.toInt) := by
  constructor
  · rintro ⟨d, hd⟩
    exact (roundDown_eq_ok_iff.mp hd).2
  · intro h
    obtain ⟨d, hd⟩ := Instant.exists_toInt_eq h.1
    exact ⟨d, roundDown_eq_ok_iff.mpr ⟨hd, h⟩⟩

/-! ## Adding -/

theorem add_fixed_eq_ok_iff {i j : Instant} {amount length : Int64}
    (h : u.fixedMillis? = some length) :
    add i u amount = .ok j ↔
      Word.Fits (amount.toInt * length.toInt) ∧
        j.toInt = i.toInt + amount.toInt * length.toInt := by
  unfold add
  rw [Instant.require_eq_ok]
  simp only [h, addFixed?, Word.mul?, Option.bind_eq_some_iff, Word.fit?_eq_some_iff,
    Instant.shift?_eq_some_iff]
  constructor
  · rintro ⟨delta, hdelta, hj⟩
    exact ⟨hdelta ▸ Word.fits_toInt delta, hdelta ▸ hj⟩
  · rintro ⟨hfits, hj⟩
    obtain ⟨delta, -, hdelta⟩ := Word.fit?_of_fits hfits
    exact ⟨delta, hdelta, hdelta ▸ hj⟩

theorem add_months_eq_ok_iff {i j : Instant} {amount : Int64} (h : u.fixedMillis? = none) :
    add i u amount = .ok j ↔
      ∃ months, monthsIn? u amount = some months ∧ HasDay i.day ∧
        HasMonth (monthOf i.day + months.toInt) ∧
        j.toInt = (dateAfterMonths i.day months.toInt).toDay * dayMillis + i.timeOfDay := by
  unfold add
  rw [Instant.require_eq_ok]
  simp only [h, addMonths?, Option.bind_eq_some_iff, Option.ite_none_right_eq_some,
    Instant.ofInt?_eq_some_iff, and_assoc]
  exact Iff.rfl

/-! ## The last millisecond of a unit -/

theorem exists_monthsIn?_one (h : u.fixedMillis? = none) :
    ∃ months, monthsIn? u 1 = some months ∧ months.toInt = monthsPer u := by
  cases u with
  | year => exact ⟨12, by decide, by decide⟩
  | month => exact ⟨1, by decide, by decide⟩
  | day | hour | minute | second | millisecond => cases h

theorem add_one_eq_ok_iff {s next : Instant} (hs : unitStart u s.toInt = s.toInt) :
    add s u 1 = .ok next ↔
      next.toInt = unitStop u s.toInt ∧ Reaches u s.toInt ∧ Reaches u (unitStop u s.toInt) := by
  have hfits : next.toInt = unitStop u s.toInt → Word.Fits (unitStop u s.toInt) :=
    fun h => h ▸ next.fits_toInt
  cases h : u.fixedMillis? with
  | some length =>
      have hl := fixedMillis_bounds h
      have hone : (1 : Int64).toInt = 1 := by decide
      have hstop : unitStop u s.toInt = s.toInt + length.toInt := by
        simp only [unitStart, unitStop, h] at hs ⊢
        omega
      have hlength : Word.Fits length.toInt := Word.fits_toInt length
      rw [add_fixed_eq_ok_iff h, hone, Int.one_mul, ← hstop, reaches_fixed h, reaches_fixed h]
      constructor
      · rintro ⟨-, he⟩
        exact ⟨he, s.fits_toInt, hfits he⟩
      · rintro ⟨he, -⟩
        exact ⟨hlength, he⟩
  | none =>
      obtain ⟨months, hmonths, hcount⟩ := exists_monthsIn?_one h
      -- the unit as a run of whole months, from `first` on
      generalize hfirst : firstMonth u (monthOf (s.toInt / dayMillis)) = first
      have hstart : s.toInt = monthStart first * dayMillis := by
        rw [← hs, ← hfirst]
        simp only [unitStart, h]
      have hstop : unitStop u s.toInt = monthStart (first + monthsPer u) * dayMillis := by
        rw [← hfirst]
        simp only [unitStop, h]
      have hday : s.day = monthStart first := by
        rw [Instant.day, hstart, day_monthStart]
      have htime : s.timeOfDay = 0 := by
        rw [Instant.timeOfDay, hstart, Int.mul_emod_left]
      have hnext : (dateAfterMonths s.day months.toInt).toDay * dayMillis + s.timeOfDay
          = unitStop u s.toInt := by
        rw [hday, htime, hcount, hstop, dateAfterMonths_monthStart]
        simp only [Date.toDay, Int.add_sub_cancel, Int.add_zero]
      have hreach : Reaches u s.toInt ↔ HasDay s.day := by
        simp only [Reaches, s.fits_toInt, h, true_and, true_implies, Instant.day]
      rw [add_months_eq_ok_iff h, hreach]
      simp only [hmonths, Option.some.injEq, exists_eq_left', hnext, Reaches, h, true_implies]
      rw [hday, monthOf_monthStart, hcount, hstop, hasDay_monthStart, ← hstop]
      constructor
      · rintro ⟨hc, hm, he⟩
        exact ⟨he, hc, hfits he, hm⟩
      · rintro ⟨he, hc, -, hm⟩
        exact ⟨hc, hm, he⟩

theorem lt_of_add_one {s next : Instant} (h : add s u 1 = .ok next) : s.toInt < next.toInt := by
  cases hu : u.fixedMillis? with
  | some length =>
      have hl := fixedMillis_bounds hu
      have hone : (1 : Int64).toInt = 1 := by decide
      have hnext := ((add_fixed_eq_ok_iff hu).mp h).2
      rw [hone, Int.one_mul] at hnext
      omega
  | none =>
      obtain ⟨months, hmonths, -, -, hnext⟩ := (add_months_eq_ok_iff hu).mp h
      obtain ⟨months', hmonths', hcount⟩ := exists_monthsIn?_one hu
      obtain rfl : months = months' := Option.some.inj (hmonths.symm.trans hmonths')
      have hper : 1 ≤ monthsPer u := by unfold monthsPer; split <;> omega
      have hday : s.day < (dateAfterMonths s.day months.toInt).toDay := by
        apply lt_of_monthOf_lt
        rw [monthOf_toDay_dateAfterMonths]
        omega
      have hs := s.day_mul_add_timeOfDay
      unfold dayMillis at hs hnext
      omega

theorem le_endOfUnit {s e : Instant} (h : endOfUnit s u = .ok e) : s ≤ e := by
  obtain ⟨next, hnext, he⟩ := bind_eq_ok.mp h
  have hlt := lt_of_add_one hnext
  rw [Instant.require_eq_ok, Instant.shift?_eq_some_iff] at he
  rw [Instant.le_def]
  omega

theorem endOfUnitAt_eq_ok_iff {s e : Instant} {offset : Int64} :
    endOfUnitAt s u offset = .ok e ↔
      ∃ reading last, s.shift? offset.toInt = some reading ∧ endOfUnit reading u = .ok last ∧
        Word.Fits (-offset.toInt) ∧ e.toInt = last.toInt - offset.toInt := by
  unfold endOfUnitAt
  simp only [bind_eq_ok, Instant.require_eq_ok, Option.bind_eq_some_iff, Word.neg?,
    Word.fit?_eq_some_iff, Instant.shift?_eq_some_iff]
  constructor
  · rintro ⟨reading, hreading, last, hlast, back, hback, he⟩
    exact ⟨reading, last, hreading, hlast, hback ▸ Word.fits_toInt back, by omega⟩
  · rintro ⟨reading, last, hreading, hlast, hfits, he⟩
    obtain ⟨back, -, hback⟩ := Word.fit?_of_fits hfits
    exact ⟨reading, hreading, last, hlast, back, hback, by omega⟩

theorem le_endOfUnitAt {s e : Instant} {offset : Int64} (h : endOfUnitAt s u offset = .ok e) :
    s ≤ e := by
  obtain ⟨reading, last, hreading, hlast, -, he⟩ := endOfUnitAt_eq_ok_iff.mp h
  have hle := le_endOfUnit hlast
  rw [Instant.shift?_eq_some_iff] at hreading
  rw [Instant.le_def] at hle ⊢
  omega

theorem endOfUnit_eq_ok_iff {s e : Instant} (hs : unitStart u s.toInt = s.toInt) :
    endOfUnit s u = .ok e ↔
      e.toInt = unitStop u s.toInt - 1 ∧ Reaches u s.toInt ∧ Reaches u (unitStop u s.toInt) := by
  unfold endOfUnit
  simp only [bind_eq_ok, Instant.require_eq_ok, Instant.shift?_eq_some_iff, add_one_eq_ok_iff hs]
  constructor
  · rintro ⟨next, ⟨hnext, hreach⟩, he⟩
    exact ⟨by omega, hreach⟩
  · rintro ⟨he, hreach⟩
    obtain ⟨next, hnext⟩ := Instant.exists_toInt_eq hreach.2.1
    exact ⟨next, ⟨hnext, hreach⟩, by omega⟩

theorem exists_last (i : Instant) (h : Word.Fits (unitStop u i.toInt)) :
    ∃ e : Instant, e.toInt = unitStop u i.toInt - 1 := by
  have hlt := lt_unitStop u i.toInt
  have hi := i.fits_toInt
  apply Instant.exists_toInt_eq
  unfold Word.Fits at *
  omega

/-- The last millisecond of a unit can be reached exactly if the units at both of its ends can. -/
theorem exists_endOfUnit_iff {s : Instant} (hs : unitStart u s.toInt = s.toInt) :
    (∃ e, endOfUnit s u = .ok e) ↔ Reaches u s.toInt ∧ Reaches u (unitStop u s.toInt) := by
  constructor
  · rintro ⟨e, he⟩
    exact ((endOfUnit_eq_ok_iff hs).mp he).2
  · intro h
    obtain ⟨e, he⟩ := exists_last s h.2.1
    exact ⟨e, (endOfUnit_eq_ok_iff hs).mpr ⟨he, h⟩⟩

/-! ## Rounding up -/

theorem roundUp_eq_ok_iff {i e : Instant} :
    roundUp i u = .ok e ↔
      e.toInt = unitStop u i.toInt - 1 ∧ Reaches u (unitStart u i.toInt) ∧
        Reaches u (unitStop u i.toInt) := by
  unfold roundUp
  rw [bind_eq_ok]
  constructor
  · rintro ⟨d, hd, he⟩
    have hd' := (roundDown_eq_ok_iff.mp hd).1
    have hs : unitStart u d.toInt = d.toInt := by rw [hd', unitStart_unitStart]
    rw [endOfUnit_eq_ok_iff hs, hd', unitStop_unitStart] at he
    exact he
  · rintro ⟨he, hstart, hstop⟩
    obtain ⟨d, hd⟩ := exists_roundDown_iff.mpr hstart
    have hd' := (roundDown_eq_ok_iff.mp hd).1
    have hs : unitStart u d.toInt = d.toInt := by rw [hd', unitStart_unitStart]
    refine ⟨d, hd, (endOfUnit_eq_ok_iff hs).mpr ?_⟩
    rw [hd', unitStop_unitStart]
    exact ⟨he, hstart, hstop⟩

theorem exists_roundUp_iff {i : Instant} :
    (∃ e, roundUp i u = .ok e) ↔
      Reaches u (unitStart u i.toInt) ∧ Reaches u (unitStop u i.toInt) := by
  constructor
  · rintro ⟨e, he⟩
    exact (roundUp_eq_ok_iff.mp he).2
  · intro h
    obtain ⟨e, he⟩ := exists_last i h.2.1
    exact ⟨e, roundUp_eq_ok_iff.mpr ⟨he, h⟩⟩

theorem roundDown_le {i d : Instant} (h : roundDown i u = .ok d) : d ≤ i := by
  rw [Instant.le_def, (roundDown_eq_ok_iff.mp h).1]
  exact unitStart_le u i.toInt

theorem le_roundUp {i e : Instant} (h : roundUp i u = .ok e) : i ≤ e := by
  have hlt := lt_unitStop u i.toInt
  rw [Instant.le_def, (roundUp_eq_ok_iff.mp h).1]
  omega

end Almanac.Calendar
