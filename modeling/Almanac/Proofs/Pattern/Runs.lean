import Almanac.Pattern
/-!
# The runs of a pattern that are fields

The compiler looks a run up in a chain of tests, the letters that can stand any number of times
before those that cannot.  `Names` is the same as a table, one line for each field.

The two meet from both sides: what is in the table is found by the tests (`Names.ofRun?`), and a run
that passes a test has a line in the table, by its letter and length alone (`exists_names`).  As a
run is in no more than one line, it does not matter in which order the tests are made.
-/

namespace Almanac.Pattern

variable {letter : Char} {count : Nat} {f : Field}

/-- The runs that are fields. -/
def IsField (letter : Char) (count : Nat) : Prop :=
  letter ∈ ['y', 'u', 'Y', 'M', 'E', 'S'] ∨
    (letter ∈ ['d', 'H', 'h', 'm', 's', 'Z'] ∧ count ≤ 2) ∨ (letter = 'a' ∧ count = 1)

/-- What a run of a letter stands for. -/
inductive Names : Char → Nat → Field → Prop
  | year {letter : Char} {count : Nat} : letter = 'y' ∨ letter = 'u' ∨ letter = 'Y' → count ≠ 2 →
      Names letter count .year
  | yearOfCentury {letter : Char} : letter = 'y' ∨ letter = 'u' ∨ letter = 'Y' →
      Names letter 2 .yearOfCentury
  | month {count : Nat} : count ≤ 2 → Names 'M' count .month
  | monthName {count : Nat} : 2 < count → Names 'M' count (.monthName (3 < count))
  | day {count : Nat} : count ≤ 2 → Names 'd' count .day
  | weekdayName {count : Nat} : Names 'E' count (.weekdayName (3 < count))
  | hour {count : Nat} : count ≤ 2 → Names 'H' count .hour
  | clockHour {count : Nat} : count ≤ 2 → Names 'h' count .clockHour
  | half : Names 'a' 1 .half
  | minute {count : Nat} : count ≤ 2 → Names 'm' count .minute
  | second {count : Nat} : count ≤ 2 → Names 's' count .second
  | fraction {count : Nat} : Names 'S' count (.fraction (Field.fractionDigits count))
  | offset {count : Nat} : count ≤ 2 → Names 'Z' count (.offset (count = 2))

theorem Names.ofRun? (h : Names letter count f) : Field.ofRun? letter count = some f := by
  cases h with
  | year hletter hcount => rw [Field.ofRun?, if_pos hletter, if_neg hcount]
  | yearOfCentury hletter => rw [Field.ofRun?, if_pos hletter, if_pos rfl]
  | month hcount => simp [Field.ofRun?, hcount]
  | monthName hcount => simp [Field.ofRun?, Nat.not_le.mpr hcount]
  | weekdayName => rfl
  | half => rfl
  | fraction => rfl
  | _ hcount => simp [Field.ofRun?, Nat.not_lt.mpr hcount]

theorem exists_names (h : IsField letter count) : ∃ f, Names letter count f := by
  simp only [IsField, List.mem_cons, List.not_mem_nil, or_false] at h
  rcases h with hletter | ⟨hletter, hcount⟩ | ⟨rfl, rfl⟩
  · have hyear (hletter : letter = 'y' ∨ letter = 'u' ∨ letter = 'Y') :
        ∃ f, Names letter count f := by
      by_cases hcount : count = 2
      · subst hcount
        exact ⟨_, .yearOfCentury hletter⟩
      · exact ⟨_, .year hletter hcount⟩
    rcases hletter with hletter | hletter | hletter | rfl | rfl | rfl
    · exact hyear (Or.inl hletter)
    · exact hyear (Or.inr (Or.inl hletter))
    · exact hyear (Or.inr (Or.inr hletter))
    · rcases Nat.lt_or_ge 2 count with hcount | hcount
      · exact ⟨_, .monthName hcount⟩
      · exact ⟨_, .month hcount⟩
    · exact ⟨_, .weekdayName⟩
    · exact ⟨_, .fraction⟩
  · rcases hletter with rfl | rfl | rfl | rfl | rfl | rfl
    · exact ⟨_, .day hcount⟩
    · exact ⟨_, .hour hcount⟩
    · exact ⟨_, .clockHour hcount⟩
    · exact ⟨_, .minute hcount⟩
    · exact ⟨_, .second hcount⟩
    · exact ⟨_, .offset hcount⟩
  · exact ⟨_, .half⟩

theorem isField_of_ofRun? (h : Field.ofRun? letter count = some f) : IsField letter count := by
  simp only [IsField, List.mem_cons, List.not_mem_nil]
  unfold Field.ofRun? at h
  grind

theorem names_iff : Names letter count f ↔ Field.ofRun? letter count = some f := by
  constructor
  · exact Names.ofRun?
  · intro h
    obtain ⟨f', hf'⟩ := exists_names (isField_of_ofRun? h)
    exact Option.some.inj (hf'.ofRun?.symm.trans h) ▸ hf'

/-- The unit that a letter spells out. -/
def unitOf? : Char → Option CalendarUnit
  | 'y' | 'u' | 'Y' => some .year
  | 'M' => some .month
  | 'd' => some .day
  | 'H' | 'h' => some .hour
  | 'm' => some .minute
  | 's' => some .second
  | 'S' => some .millisecond
  | _ => none

theorem Names.unit?_eq (h : Names letter count f) : f.unit? = unitOf? letter := by
  cases h with
  | year hletter => rcases hletter with rfl | rfl | rfl <;> rfl
  | yearOfCentury hletter => rcases hletter with rfl | rfl | rfl <;> rfl
  | _ => rfl

end Almanac.Pattern
