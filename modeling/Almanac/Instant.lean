import Almanac.Word
/-!
Instants: signed counts of milliseconds since 1970-01-01T00:00:00Z.

An instant is the only value that is stored or compared. Moving an instant by a number of
milliseconds is exact or absent (`shift?`), or stops at the ends of the word range (`later`,
`earlier`).
-/

namespace Almanac

/-- A point in time, in whole milliseconds since the epoch; negative before it. -/
structure Instant where
  /-- Milliseconds since the epoch. -/
  millis : Int64
deriving DecidableEq, Inhabited

namespace Instant

def epoch : Instant := ⟨0⟩

def toInt (i : Instant) : Int := i.millis.toInt

/-- The instant at an integer number of milliseconds, if a word can hold it. -/
def ofInt? (n : Int) : Option Instant := (Word.fit? n).map Instant.mk

/-- The instant nearest to an integer number of milliseconds. -/
def nearest (n : Int) : Instant := ⟨Word.clamp n⟩

instance : LE Instant := ⟨fun i j => i.toInt ≤ j.toInt⟩
instance : LT Instant := ⟨fun i j => i.toInt < j.toInt⟩
instance (i j : Instant) : Decidable (i ≤ j) := inferInstanceAs (Decidable (i.toInt ≤ j.toInt))
instance (i j : Instant) : Decidable (i < j) := inferInstanceAs (Decidable (i.toInt < j.toInt))

/-- The instant `amount` milliseconds later, if there is one. -/
def shift? (i : Instant) (amount : Int) : Option Instant := ofInt? (i.toInt + amount)

/-- The instant `amount` milliseconds later, or the last one. -/
def later (i : Instant) (amount : Int64) : Instant := nearest (i.toInt + amount.toInt)

/-- The instant `amount` milliseconds earlier, or the first one. -/
def earlier (i : Instant) (amount : Int64) : Instant := nearest (i.toInt - amount.toInt)

/-- The millisecond within its second, from 0 to 999 also before the epoch. -/
def millisOfSecond (i : Instant) : Nat := (i.toInt % 1000).toNat

/-- The written form is the millisecond count in decimal. -/
def render (i : Instant) : String := toString i.toInt

/-! ## The integer view decides everything -/

theorem toInt_inj {i j : Instant} : i.toInt = j.toInt ↔ i = j := by
  cases i; cases j; simp [toInt, Int64.toInt_inj]

theorem ofInt?_eq_some_iff {n : Int} {i : Instant} : ofInt? n = some i ↔ i.toInt = n := by
  cases i with
  | mk a => simp [ofInt?, toInt, Word.fit?_eq_some_iff]

theorem shift?_eq_some_iff {i j : Instant} {amount : Int} :
    i.shift? amount = some j ↔ j.toInt = i.toInt + amount := ofInt?_eq_some_iff

theorem fits_toInt (i : Instant) : Word.Fits i.toInt := Word.fits_toInt i.millis

theorem toInt_nearest_of_fits {n : Int} (h : Word.Fits n) : (nearest n).toInt = n := by
  show (Word.clamp n).toInt = n
  rw [Word.toInt_clamp]
  unfold Word.Fits at h
  omega

theorem toInt_later (i : Instant) (amount : Int64) :
    (i.later amount).toInt = max Word.least (min (i.toInt + amount.toInt) Word.greatest) :=
  Word.toInt_clamp _

theorem toInt_earlier (i : Instant) (amount : Int64) :
    (i.earlier amount).toInt = max Word.least (min (i.toInt - amount.toInt) Word.greatest) :=
  Word.toInt_clamp _

end Instant

end Almanac
