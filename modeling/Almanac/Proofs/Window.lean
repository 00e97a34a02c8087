import Almanac.Proofs.Outcome
import Almanac.Proofs.Tolerance
import Almanac.Window
/-!
# Windows measure distance

The ends of a window are words, so near the first or the last word they are not where the tolerance
puts them.  Nothing is lost by that.  A lower end that is moved up to the first word has every word
above it before and after (`earlier_le_iff`), and an upper end that is moved down to the last one
has every word below it (`le_later_iff`).  An end that is moved the other way would lose words, but
no tolerance is negative, and so no lower end is past the last word.

What is left is a distance (`isMatch_around`).  It is the same from either side, it is zero at the
centre, and a larger tolerance only adds to the values within it.
-/

namespace Almanac

/-! ## Ends that may be clamped -/

namespace Instant

variable {i j : Instant} {amount : Int64}

theorem earlier_le_iff (h : 0 ≤ amount.toInt) :
    i.earlier amount ≤ j ↔ i.toInt - amount.toInt ≤ j.toInt := by
  obtain ⟨hleast, -⟩ := j.fits_toInt
  obtain ⟨-, hgreatest⟩ := i.fits_toInt
  have hend : i.toInt - amount.toInt ≤ Word.greatest := by omega
  rw [le_def, toInt_earlier, Int.min_eq_left hend]
  exact Int.max_le.trans (and_iff_right hleast)

theorem le_later_iff (h : 0 ≤ amount.toInt) :
    j ≤ i.later amount ↔ j.toInt ≤ i.toInt + amount.toInt := by
  obtain ⟨-, hgreatest⟩ := j.fits_toInt
  obtain ⟨hleast, -⟩ := i.fits_toInt
  have hend : Word.least ≤ min (i.toInt + amount.toInt) Word.greatest :=
    Int.le_min.mpr ⟨by omega, by decide⟩
  rw [le_def, toInt_later, Int.max_eq_right hend]
  exact Int.le_min.trans (and_iff_left hgreatest)

end Instant

/-! ## Windows -/

namespace Window

variable {c : Instant} {t v : Int64} {step : UInt32} {text : String}

theorem read_eq_ok {w : Window} :
    read c text = .ok w ↔ ∃ t, Tolerance.read text = .ok t ∧ around c t = w := by
  rw [read, bind_eq_ok]
  simp only [pure_eq_ok]

/-- A window reaches as far as its tolerance on either side. -/
theorem isMatch_around (h : 0 ≤ t.toInt) :
    ((around c t).query step).isMatch v = true ↔ |v.toInt - c.toInt| ≤ t.toInt := by
  have hlower : c.earlier t ≤ ⟨v⟩ ↔ c.toInt - t.toInt ≤ v.toInt := Instant.earlier_le_iff h
  have hupper : ⟨v⟩ ≤ c.later t ↔ v.toInt ≤ c.toInt + t.toInt := Instant.le_later_iff h
  calc ((around c t).query step).isMatch v = true
      ↔ c.earlier t ≤ ⟨v⟩ ∧ ⟨v⟩ ≤ c.later t := by
        simp only [Query.isMatch, query, around, Option.map_some, Bool.and_eq_true,
          isAbove_inclusive, isBelow_inclusive]
        exact Iff.rfl
    _ ↔ c.toInt - t.toInt ≤ v.toInt ∧ v.toInt ≤ c.toInt + t.toInt := and_congr hlower hupper
    _ ↔ |v.toInt - c.toInt| ≤ t.toInt := by
        rw [abs_le]
        omega

/-- A tolerance that is read has its window around every centre, and a stored value matches the
window if its distance from the centre is at most the tolerance.  So each of two instants matches
the window around the other or neither does, the centre matches, and a larger tolerance keeps every
match. -/
theorem isMatch_iff_dist_le (h : Tolerance.read text = .ok t) (c : Instant) :
    ∃ w, read c text = .ok w ∧
      (∀ step v, (w.query step).isMatch v = true ↔ |v.toInt - c.toInt| ≤ t.toInt) ∧
      (∀ i w' step step', read i text = .ok w' →
        (w.query step).isMatch i.millis = (w'.query step').isMatch c.millis) ∧
      (∀ step, (w.query step).isMatch c.millis = true) ∧
      ∀ text' t', Tolerance.read text' = .ok t' → t.toInt ≤ t'.toInt →
        ∃ w', read c text' = .ok w' ∧ ∀ step step' v,
          (w.query step).isMatch v = true → (w'.query step').isMatch v = true := by
  have hnonneg : 0 ≤ t.toInt := Tolerance.nonneg_of_read h
  refine ⟨around c t, read_eq_ok.mpr ⟨t, h, rfl⟩, fun step v => isMatch_around hnonneg, ?_, ?_, ?_⟩
  · intro i w' step step' hread
    obtain ⟨t', ht', rfl⟩ := read_eq_ok.mp hread
    obtain rfl := Except.ok.inj (h.symm.trans ht')
    rw [Bool.eq_iff_iff, isMatch_around hnonneg, isMatch_around hnonneg, abs_sub_comm]
    rfl
  · intro step
    rw [isMatch_around hnonneg, show c.millis.toInt - c.toInt = 0 from Int.sub_self _, abs_zero]
    exact hnonneg
  · intro text' t' ht' hle
    refine ⟨around c t', read_eq_ok.mpr ⟨t', ht', rfl⟩, fun step step' v hmatch => ?_⟩
    rw [isMatch_around hnonneg] at hmatch
    exact (isMatch_around (Int.le_trans hnonneg hle)).mpr (Int.le_trans hmatch hle)

/-- The largest tolerance, around the millisecond after the epoch: the window ends at the last word,
and the first one is too far away. -/
theorem isMatch_iff_dist_le_widest :
    ∃ w, read ⟨1⟩ "9223372036854775807" = .ok w ∧
      (w.query defaultPrecisionStep).isMatch Int64.maxValue = true ∧
      (w.query defaultPrecisionStep).isMatch Int64.minValue = false := by
  have hread : Tolerance.read "9223372036854775807" = .ok Int64.maxValue := rfl
  obtain ⟨w, hw, hdist, -⟩ := isMatch_iff_dist_le hread ⟨1⟩
  refine ⟨w, hw, (hdist _ _).mpr (by decide), ?_⟩
  rw [← Bool.not_eq_true, hdist]
  decide

end Window

end Almanac
