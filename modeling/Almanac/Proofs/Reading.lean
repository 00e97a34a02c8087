import Almanac.Proofs.Calendar.Units
import Almanac.Resolver
/-!
# Readings at the start of their unit

A reading names a unit: the year `2023`, the day `2023-05-17`, the hour `2023-05-17T10`.  What its
clock shows should be the first millisecond of that unit, and its widening the last one.  `Opens` is
the first half; the readers of this library give such readings (`Proofs.Timestamp.OptionalTime` and
`Proofs.Pattern.Reader`).  It implies the second half: the widened reading ends exactly the unit on
its own clock (`widen_up_eq_ok_iff`), so that the instants in between are those that the clock shows
in that unit (`between_iff`).
-/

namespace Almanac

open Calendar

namespace Calendar

variable {u : CalendarUnit} {day : Int}

/-- Days are made of whole units of fixed length. -/
theorem unitStart_day_add {length : Int64} {time : Int} (h : u.fixedMillis? = some length)
    (htime : time % length.toInt = 0) :
    unitStart u (day * dayMillis + time) = day * dayMillis + time := by
  have hdvd : length.toInt ∣ dayMillis := by
    cases u <;> cases h <;> decide
  have hsum : (day * dayMillis + time) % length.toInt = 0 :=
    Int.emod_eq_zero_of_dvd
      (Int.dvd_add (Int.dvd_mul_of_dvd_right hdvd) (Int.dvd_of_emod_eq_zero htime))
  simp only [unitStart, h]
  omega

theorem unitStart_monthStart {month : Int} (h : u.fixedMillis? = none)
    (hfirst : firstMonth u month = month) :
    unitStart u (monthStart month * dayMillis) = monthStart month * dayMillis := by
  simp only [unitStart, h, day_monthStart, monthOf_monthStart, hfirst]

theorem Reaches.unitStop_le {n : Int} (h : Reaches u (unitStop u n)) (hn : n ≤ 9086400000000000) :
    unitStop u n ≤ 9086486400000000 := by
  cases hu : u.fixedMillis? with
  | some length =>
      have hl := fixedMillis_bounds hu
      have hmod : 0 ≤ n % length.toInt := Int.emod_nonneg n (by omega)
      simp only [unitStop, hu]
      omega
  | none =>
      have hday := (h.2 hu).bounds
      have hlt := Int.lt_ediv_add_one_mul_self (unitStop u n) (show (0 : Int) < dayMillis by decide)
      unfold dayMillis at hday hlt
      omega

end Calendar

namespace Reading

/-- The clock of a reading shows the first millisecond of the unit that the reading names.  The
bounds are wide: every date of the supported calendar lies within them. -/
structure Opens (r : Reading) : Prop where
  starts : unitStart r.precision (r.instant.toInt + r.offset.toInt)
    = r.instant.toInt + r.offset.toInt
  hasDay : r.precision.fixedMillis? = none →
    HasDay ((r.instant.toInt + r.offset.toInt) / dayMillis)
  instant_le : -9000000000000000 ≤ r.instant.toInt ∧ r.instant.toInt ≤ 9000000000000000
  offset_le : -86400000 ≤ r.offset.toInt ∧ r.offset.toInt ≤ 86400000

variable {r : Reading} {shown : Instant}

theorem Opens.exists_shown (h : r.Opens) :
    ∃ shown, r.wallClock? = some shown ∧ roundDown shown r.precision = .ok shown := by
  obtain ⟨hi₀, hi₁⟩ := h.instant_le
  obtain ⟨ho₀, ho₁⟩ := h.offset_le
  have hfits : Word.Fits (r.instant.toInt + r.offset.toInt) := Word.fits_of_near (by omega)
  obtain ⟨shown, hshown⟩ := Instant.exists_toInt_eq hfits
  refine ⟨shown, Instant.shift?_eq_some_iff.mpr hshown, roundDown_eq_ok_iff.mpr ?_⟩
  rw [hshown, h.starts]
  exact ⟨rfl, hfits, h.hasDay⟩

theorem Opens.unitStart_shown (h : r.Opens) (hshown : r.wallClock? = some shown) :
    unitStart r.precision shown.toInt = shown.toInt := by
  have hs : shown.toInt = r.instant.toInt + r.offset.toInt := Instant.shift?_eq_some_iff.mp hshown
  rw [hs, h.starts]

theorem Opens.reaches_shown (h : r.Opens) (hshown : r.wallClock? = some shown) :
    Reaches r.precision shown.toInt := by
  have hs : shown.toInt = r.instant.toInt + r.offset.toInt := Instant.shift?_eq_some_iff.mp hshown
  exact ⟨shown.fits_toInt, fun hp => hs ▸ h.hasDay hp⟩

/-- A widened reading is the last millisecond, on the clock of the reading, of what the clock
shows. -/
theorem Opens.widen_up_eq_ok_iff (h : r.Opens) (hshown : r.wallClock? = some shown) {w : Instant} :
    r.widen .up = .ok w ↔
      w.toInt = unitStop r.precision shown.toInt - 1 - r.offset.toInt ∧
        Reaches r.precision (unitStop r.precision shown.toInt) := by
  have hs : shown.toInt = r.instant.toInt + r.offset.toInt := Instant.shift?_eq_some_iff.mp hshown
  have hstarts := h.unitStart_shown hshown
  have ho := h.offset_le
  have hback : Word.Fits (-r.offset.toInt) := Word.fits_of_near (by omega)
  show endOfUnitAt r.instant r.precision r.offset = .ok w ↔ _
  rw [endOfUnitAt_eq_ok_iff]
  constructor
  · rintro ⟨reading, last, hreading, hlast, -, hw⟩
    obtain rfl : reading = shown := Option.some.inj (hreading.symm.trans hshown)
    obtain ⟨hend, -, hreach⟩ := (endOfUnit_eq_ok_iff hstarts).mp hlast
    exact ⟨by omega, hreach⟩
  · rintro ⟨hw, hreach⟩
    obtain ⟨last, hlast⟩ :=
      (exists_endOfUnit_iff hstarts).mpr ⟨h.reaches_shown hshown, hreach⟩
    have hend := ((endOfUnit_eq_ok_iff hstarts).mp hlast).1
    exact ⟨shown, last, hshown, hlast, hback, by omega⟩

/-- From the reading to its widening, the clock shows the unit that the reading names, and at no
other instant. -/
theorem Opens.between_iff (h : r.Opens) (hshown : r.wallClock? = some shown) {w t : Instant}
    (hw : r.widen .up = .ok w) :
    (r.instant ≤ t ∧ t ≤ w) ↔
      ∃ s, t.shift? r.offset.toInt = some s ∧ roundDown s r.precision = .ok shown := by
  have hs : shown.toInt = r.instant.toInt + r.offset.toInt := Instant.shift?_eq_some_iff.mp hshown
  have hstarts := h.unitStart_shown hshown
  obtain ⟨hend, hreach⟩ := (h.widen_up_eq_ok_iff hshown).mp hw
  simp only [Instant.le_def, Instant.shift?_eq_some_iff, roundDown_eq_ok_iff]
  constructor
  · rintro ⟨hle, hlew⟩
    have hfits : Word.Fits (t.toInt + r.offset.toInt) := by
      have hl := shown.fits_toInt.1
      have hg := hreach.1.2
      unfold Word.Fits
      omega
    obtain ⟨s, hst⟩ := Instant.exists_toInt_eq hfits
    have hunit : unitStart r.precision s.toInt = shown.toInt := by
      rw [← hstarts, unitStart_eq_iff, hstarts]
      omega
    exact ⟨s, hst, hunit.symm, hunit ▸ h.reaches_shown hshown⟩
  · rintro ⟨s, hst, hunit, -⟩
    have hin := unitStart_eq_iff.mp (hunit.symm.trans hstarts.symm)
    rw [hstarts] at hin
    omega

/-- Widening fails only where the next unit has no first millisecond. -/
theorem Opens.widen_fails_iff (h : r.Opens) (hshown : r.wallClock? = some shown) :
    (∃ fault, r.widen .up = .error fault) ↔
      ¬ Reaches r.precision (unitStop r.precision shown.toInt) := by
  have hs : shown.toInt = r.instant.toInt + r.offset.toInt := Instant.shift?_eq_some_iff.mp hshown
  have hi := h.instant_le
  have ho := h.offset_le
  rw [exists_error_iff]
  constructor
  · intro hno hreach
    have hlt := lt_unitStop r.precision shown.toInt
    have hnear : unitStop r.precision shown.toInt ≤ 9086486400000000 :=
      hreach.unitStop_le (by omega)
    have hfits : Word.Fits (unitStop r.precision shown.toInt - 1 - r.offset.toInt) :=
      Word.fits_of_near (by omega)
    obtain ⟨w, hw⟩ := Instant.exists_toInt_eq hfits
    exact hno w ((h.widen_up_eq_ok_iff hshown).mpr ⟨hw, hreach⟩)
  · intro hno w hw
    exact hno ((h.widen_up_eq_ok_iff hshown).mp hw).2

end Reading

end Almanac
