import Almanac.Proofs.Calendar.Months
import Almanac.Proofs.Timestamp.Written
import Almanac.Timestamp.OptionalTime
/-!
# Dates with optional time as they are written

A spelling is a date with optional time before it is read: its signs and digits, which of its parts
are written, and whether an offset has a colon.  It says what it is written as (`Spelling.text`) and
what it stands for, and that is counted out here, without the arithmetic of the reader.  The days
are those of all the months since 1970-01-01, and a fraction is a quotient, cut off at the
millisecond.

Two spellings can stand for one instant.  What makes a spelling valid are bounds on its numbers, the
calendar's own among them.
-/

namespace Almanac

namespace Calendar

/-- The days of so many months, from one on. -/
def daysOfMonths (first : Int) : Nat → Int
  | 0 => 0
  | n + 1 => daysOfMonths first n + monthLength (first + n)

/-- January of the year 1970. -/
def epochMonth : Int := 1970 * 12

/-- The days from 1970-01-01 to the first day of a month: those of the months between, counted
forwards or backwards. -/
def daysToMonth (month : Int) : Int :=
  daysOfMonths epochMonth (month - epochMonth).toNat - daysOfMonths month (epochMonth - month).toNat

theorem monthStart_add (month : Int) : ∀ n : Nat,
    monthStart (month + n) = monthStart month + daysOfMonths month n
  | 0 => by rw [Int.natCast_zero, Int.add_zero, daysOfMonths, Int.add_zero]
  | n + 1 => by
      rw [Int.natCast_add, Int.natCast_one, ← Int.add_assoc, monthStart_succ,
        monthStart_add month n, daysOfMonths, Int.add_assoc]

/-- A month starts on the day that is found for it by counting. -/
theorem daysToMonth_eq (month : Int) : daysToMonth month = monthStart month := by
  have hepoch : monthStart epochMonth = 0 := by decide
  rcases Int.le_total epochMonth month with h | h
  · obtain ⟨n, rfl⟩ := Int.le.dest h
    have hcount : (epochMonth + n - epochMonth).toNat = n := by omega
    have hnone : (epochMonth - (epochMonth + n)).toNat = 0 := by omega
    rw [daysToMonth, hcount, hnone, daysOfMonths, monthStart_add, hepoch]
    omega
  · obtain ⟨n, hn⟩ := Int.le.dest h
    have hcount : (epochMonth - month).toNat = n := by omega
    have hnone : (month - epochMonth).toNat = 0 := by omega
    have hadd := monthStart_add month n
    rw [hn, hepoch] at hadd
    rw [daysToMonth, hcount, hnone, daysOfMonths]
    omega

end Calendar

namespace Timestamp

open Calendar

inductive Sign where
  | plus
  | minus

namespace Sign

def mark : Sign → Char
  | plus => '+'
  | minus => '-'

/-- A number with the sign in front. -/
def apply : Sign → Nat → Int
  | plus, n => n
  | minus, n => -(n : Int)

theorem natAbs_apply (sign : Sign) (n : Nat) : (sign.apply n).natAbs = n := by
  cases sign with
  | plus => exact Int.natAbs_natCast n
  | minus => exact (Int.natAbs_neg n).trans (Int.natAbs_natCast n)

end Sign

/-! ## The date -/

/-- A date as it is written. -/
structure DateSpelling where
  sign : Option Sign
  /-- The digits of the year. -/
  digits : List Char
  month : Nat
  day : Nat

namespace DateSpelling

variable (d : DateSpelling)

def year : Int := (d.sign.getD .plus).apply (Text.number d.digits)

def yearText : List Char := (d.sign.map Sign.mark).toList ++ d.digits

def text : List Char := d.yearText ++ '-' :: twoText d.month ++ '-' :: twoText d.day

def date : Date := ⟨d.year * 12 + (d.month - 1), d.day⟩

/-- A year of at least four digits in the calendar, and a day that its month has. -/
structure IsValid : Prop where
  isDigit : ∀ c ∈ d.digits, c.isDigit = true
  four_le : 4 ≤ d.digits.length
  year : firstYear ≤ d.year ∧ d.year ≤ lastYear
  month : 1 ≤ d.month ∧ d.month ≤ 12
  day : 1 ≤ d.day ∧ d.day ≤ monthLength (d.year * 12 + (d.month - 1))

/-- The days from 1970-01-01 to the date. -/
def days : Int := daysToMonth (d.year * 12 + (d.month - 1)) + (d.day - 1)

theorem days_eq : d.days = d.date.toDay := by
  rw [days, daysToMonth_eq, date, Date.toDay, Int.add_sub_assoc]

end DateSpelling

/-! ## The time of day -/

/-- A time of day as far as it is written. -/
inductive Clock where
  | none
  | hour (hour : Nat)
  | minute (hour minute : Nat)
  | second (hour minute second : Nat)
  | fraction (hour minute second : Nat) (digits : List Char)

namespace Clock

def text : Clock → List Char
  | none => []
  | hour h => 'T' :: twoText h
  | minute h m => 'T' :: twoText h ++ ':' :: twoText m
  | second h m s => 'T' :: twoText h ++ ':' :: twoText m ++ ':' :: twoText s
  | fraction h m s digits =>
      'T' :: twoText h ++ ':' :: twoText m ++ ':' :: twoText s ++ '.' :: digits

/-- A time that a clock shows, with a digit after the point if there is one. -/
def IsValid : Clock → Prop
  | none => True
  | hour h => h ≤ 23
  | minute h m => h ≤ 23 ∧ m ≤ 59
  | second h m s => h ≤ 23 ∧ m ≤ 59 ∧ s ≤ 59
  | fraction h m s digits =>
      h ≤ 23 ∧ m ≤ 59 ∧ s ≤ 59 ∧ digits ≠ [] ∧ ∀ c ∈ digits, c.isDigit = true

/-- The milliseconds since midnight, cut off after the third digit of the fraction. -/
def millis : Clock → Nat
  | none => 0
  | hour h => h * 3600000
  | minute h m => h * 3600000 + m * 60000
  | second h m s => h * 3600000 + m * 60000 + s * 1000
  | fraction h m s digits =>
      h * 3600000 + m * 60000 + s * 1000 + Text.number digits * 1000 / 10 ^ digits.length

/-- The finest unit that is written. -/
def precision : Clock → CalendarUnit
  | none => .day
  | hour _ => .hour
  | minute _ _ => .minute
  | second _ _ _ => .second
  | fraction _ _ _ _ => .millisecond

end Clock

/-! ## The zone -/

/-- A zone as it is written, if it is. -/
inductive Zone where
  | none
  | utc
  | hours (sign : Sign) (hours : Nat)
  | minutes (sign : Sign) (hours : Nat) (colon : Bool) (minutes : Nat)

namespace Zone

def text : Zone → List Char
  | none => []
  | utc => ['Z']
  | hours sign h => sign.mark :: twoText h
  | minutes sign h colon m =>
      sign.mark :: twoText h ++ (if colon then [':'] else []) ++ twoText m

def IsValid : Zone → Prop
  | none => True
  | utc => True
  | hours _ h => h ≤ 18
  | minutes _ h _ m => h ≤ 18 ∧ m ≤ 59

/-- Minutes ahead of UTC. -/
def offset : Zone → Int
  | none => 0
  | utc => 0
  | hours sign h => sign.apply (h * 60)
  | minutes sign h _ m => sign.apply (h * 60 + m)

end Zone

/-! ## The whole -/

/-- A date with optional time and zone as it is written. -/
structure Spelling where
  date : DateSpelling
  clock : Clock
  zone : Zone

namespace Spelling

variable (w : Spelling)

def text : List Char := w.date.text ++ w.clock.text ++ w.zone.text

structure IsValid : Prop where
  date : w.date.IsValid
  clock : w.clock.IsValid
  zone : w.zone.IsValid

/-- The signed offset in milliseconds. -/
def offset : Int := w.zone.offset * 60000

/-- Milliseconds from the epoch to the instant. -/
def millis : Int := w.date.days * 86400000 + w.clock.millis - w.offset

end Spelling

end Timestamp

end Almanac
