import Almanac.Proofs.Calendar.Partition
/-!
# Units nest

A unit begins wherever a coarser one does (`Begins.of_le`): the lengths of the fixed units divide
one another, the longest of them divides the distance of any two midnights, months begin at
midnight, and a year is made of whole months.  So the interval of a coarser unit is made of whole
intervals of a finer one, and a millisecond can be moved within its finer unit without leaving the
coarser one (`unitStart_congr_of_le`).

Rounding twice, to the finer unit and then to the coarser one, is therefore rounding once to the
coarser one (`coarser_absorbs`).  The detour could still end sooner, at a limit that the direct way
does not meet.  It does not: the ends of the finer unit lie between those of the coarser one, and
if these can be reached, so can whatever lies between them.
-/

namespace Almanac.Calendar

variable {u v : CalendarUnit} {m n : Int} {x d p : Instant}

/-! ## Beginnings -/

theorem fixedMillis_dvd {finer coarser : Int64} (h : v ≤ u) (hu : u.fixedMillis? = some finer)
    (hv : v.fixedMillis? = some coarser) : finer.toInt ∣ coarser.toInt := by
  revert h
  cases v <;> cases hv <;> cases u <;> cases hu <;> decide

theorem fixedMillis_dvd_day {length : Int64} (h : u.fixedMillis? = some length) :
    length.toInt ∣ dayMillis := by
  cases u <;> cases h <;> decide

/-- Only months and years have no fixed length, and no fixed length is coarser than these. -/
theorem fixedMillis?_eq_none_of_le (h : v ≤ u) (hu : u.fixedMillis? = none) :
    v.fixedMillis? = none := by
  revert h
  cases u <;> cases hu <;> cases v <;> decide

theorem monthsPer_dvd (h : v ≤ u) (hu : u.fixedMillis? = none) : monthsPer u ∣ monthsPer v := by
  revert h
  cases u <;> cases hu <;> cases v <;> decide

theorem Begins.of_le (h : v ≤ u) (hb : Begins v n) : Begins u n := by
  cases hu : u.fixedMillis? with
  | some finer =>
      cases hv : v.fixedMillis? with
      | some coarser =>
          simp only [Begins, hu, hv] at hb ⊢
          exact Int.dvd_trans (fixedMillis_dvd h hu hv) hb
      | none =>
          simp only [Begins, hu, hv] at hb ⊢
          obtain ⟨month, -, rfl⟩ := hb
          exact Int.dvd_trans (fixedMillis_dvd_day hu) (Int.dvd_mul_left _ _)
  | none =>
      have hv := fixedMillis?_eq_none_of_le h hu
      simp only [Begins, hu, hv] at hb ⊢
      obtain ⟨month, hmonth, rfl⟩ := hb
      exact ⟨month, Int.dvd_trans (monthsPer_dvd h hu) hmonth, rfl⟩

/-! ## Intervals -/

theorem unitStart_le_of_le (h : v ≤ u) (n : Int) : unitStart v n ≤ unitStart u n :=
  (isGreatest_unitStart u n).2 ⟨(begins_unitStart v n).of_le h, unitStart_le v n⟩

theorem unitStop_le_of_le (h : v ≤ u) (n : Int) : unitStop u n ≤ unitStop v n :=
  (isLeast_unitStop u n).2 ⟨(begins_unitStop v n).of_le h, lt_unitStop v n⟩

theorem unitStart_congr_of_le (h : v ≤ u) (hmn : unitStart u m = unitStart u n) :
    unitStart v m = unitStart v n := by
  obtain ⟨hm₀, hm₁⟩ := unitStart_eq_iff.mp hmn
  exact unitStart_eq_iff.mpr ⟨Int.le_trans (unitStart_le_of_le h n) hm₀,
    Int.lt_of_lt_of_le hm₁ (unitStop_le_of_le h n)⟩

theorem unitStop_congr_of_le (h : v ≤ u) (hmn : unitStart u m = unitStart u n) :
    unitStop v m = unitStop v n :=
  unitStop_congr (unitStart_congr_of_le h hmn)

/-! ## What can be reached -/

/-- What lies between two milliseconds that a coarser unit reaches is reached by a finer one. -/
theorem Reaches.between {a b : Int} (h : v ≤ u) (ha : Reaches v a) (hb : Reaches v b)
    (han : a ≤ n) (hnb : n ≤ b) : Reaches u n := by
  refine ⟨⟨Int.le_trans ha.1.1 han, Int.le_trans hnb hb.1.2⟩, fun hu => ?_⟩
  have hv := fixedMillis?_eq_none_of_le h hu
  have hday : (0 : Int) < dayMillis := by decide
  exact ⟨Int.le_trans (ha.2 hv).1 (Int.ediv_le_ediv hday han),
    Int.lt_of_le_of_lt (Int.ediv_le_ediv hday hnb) (hb.2 hv).2⟩

theorem reaches_unitStart_of_le (h : v ≤ u) (hstart : Reaches v (unitStart v x.toInt)) :
    Reaches u (unitStart u x.toInt) := by
  have hx : Reaches v x.toInt :=
    ⟨x.fits_toInt, fun hv => (hasDay_unitStart hv).mp (hstart.2 hv)⟩
  exact hstart.between h hx (unitStart_le_of_le h x.toInt) (unitStart_le u x.toInt)

theorem reaches_unitStop_of_le (h : v ≤ u) (hstart : Reaches v (unitStart v x.toInt))
    (hstop : Reaches v (unitStop v x.toInt)) : Reaches u (unitStop u x.toInt) := by
  have hafter : unitStart v x.toInt ≤ unitStop u x.toInt :=
    Int.le_trans (unitStart_le v x.toInt) (Int.le_of_lt (lt_unitStop u x.toInt))
  exact hstart.between h hstop hafter (unitStop_le_of_le h x.toInt)

/-! ## Rounding twice -/

theorem roundDown_twice_iff (h : v ≤ u) :
    (∃ finer, roundDown x u = .ok finer ∧ roundDown finer v = .ok d) ↔
      roundDown x v = .ok d := by
  have hsame : unitStart v (unitStart u x.toInt) = unitStart v x.toInt :=
    unitStart_congr_of_le h (unitStart_unitStart u x.toInt)
  constructor
  · rintro ⟨finer, hfiner, hd⟩
    have hstart := (roundDown_eq_ok_iff.mp hfiner).1
    rw [roundDown_eq_ok_iff, hstart, hsame] at hd
    exact roundDown_eq_ok_iff.mpr hd
  · intro hd
    obtain ⟨hd, hreach⟩ := roundDown_eq_ok_iff.mp hd
    obtain ⟨finer, hfiner⟩ := exists_roundDown_iff.mpr (reaches_unitStart_of_le h hreach)
    have hstart := (roundDown_eq_ok_iff.mp hfiner).1
    refine ⟨finer, hfiner, roundDown_eq_ok_iff.mpr ?_⟩
    rw [hstart, hsame]
    exact ⟨hd, hreach⟩

theorem unitStart_of_roundUp (hp : roundUp x u = .ok p) :
    unitStart u p.toInt = unitStart u x.toInt := by
  have hlast := (roundUp_eq_ok_iff.mp hp).1
  have hstart := unitStart_le u x.toInt
  have hstop := lt_unitStop u x.toInt
  exact unitStart_eq_iff.mpr (by omega)

theorem roundUp_twice_iff (h : v ≤ u) :
    (∃ finer, roundUp x u = .ok finer ∧ roundUp finer v = .ok p) ↔ roundUp x v = .ok p := by
  have hsame : ∀ finer, roundUp x u = .ok finer →
      (roundUp finer v = .ok p ↔ roundUp x v = .ok p) := by
    intro finer hfiner
    have hin := unitStart_of_roundUp hfiner
    rw [roundUp_eq_ok_iff, roundUp_eq_ok_iff, unitStart_congr_of_le h hin,
      unitStop_congr_of_le h hin]
  constructor
  · rintro ⟨finer, hfiner, hp⟩
    exact (hsame finer hfiner).mp hp
  · intro hp
    obtain ⟨-, hstart, hstop⟩ := roundUp_eq_ok_iff.mp hp
    obtain ⟨finer, hfiner⟩ := exists_roundUp_iff.mpr
      ⟨reaches_unitStart_of_le h hstart, reaches_unitStop_of_le h hstart hstop⟩
    exact ⟨finer, hfiner, (hsame finer hfiner).mpr hp⟩

/-- Rounding to a unit and then to a coarser one, or to the same again, is rounding to the coarser
one: both ways give the same instant or give none, at every instant there is. -/
theorem coarser_absorbs (h : v ≤ u) (x : Instant) :
    (∀ d, (∃ finer, roundDown x u = .ok finer ∧ roundDown finer v = .ok d) ↔
        roundDown x v = .ok d) ∧
      ∀ p, (∃ finer, roundUp x u = .ok finer ∧ roundUp finer v = .ok p) ↔
        roundUp x v = .ok p :=
  ⟨fun _ => roundDown_twice_iff h, fun _ => roundUp_twice_iff h⟩

/-- The last millisecond of the calendar: its year begins in the calendar, and the next one does
not. -/
theorem coarser_absorbs_last_year :
    CalendarUnit.year ≤ CalendarUnit.day ∧
      (∃ day, roundDown ⟨8210266876799999⟩ .day = .ok day ∧
        roundDown day .year = .ok ⟨8210235340800000⟩) ∧
      ¬ ∃ p day, roundUp ⟨8210266876799999⟩ .day = .ok day ∧ roundUp day .year = .ok p := by
  have h := coarser_absorbs (u := .day) (v := .year) (by decide) ⟨8210266876799999⟩
  have hdown : roundDown ⟨8210266876799999⟩ .year = .ok ⟨8210235340800000⟩ :=
    toOption_eq_some.mp (by decide +kernel)
  have hup : (roundUp ⟨8210266876799999⟩ .year).toOption = none := by decide +kernel
  refine ⟨by decide, (h.1 _).mpr hdown, ?_⟩
  rintro ⟨p, hp⟩
  have hsome := toOption_eq_some.mpr ((h.2 p).mp hp)
  rw [hup] at hsome
  cases hsome

end Almanac.Calendar
