import Mathlib.Data.List.TakeWhile
import Almanac.Proofs.Text.Digits
import Almanac.Proofs.Timestamp.Agreement
/-!
# The characters of a timestamp

A timestamp is made of digits, signs, colons, points and a `T`, and there may be a `Z` at its very
end and nowhere else (`alphabet_of_readOptionalTime`).  The scans show it one by one, because what a
sequence takes is what its steps take (`plain_bind`).  It settles which other stage can read the
same text.  None of these characters is a letter that has another case, there is no `N` for a `NOW`
and no slash, and date math that begins with a timestamp ends with it.

Nor is a timestamp a number: a year takes all the digits that follow it, and there must be a dash
after them (`not_ok_of_digits`).
-/

namespace Almanac.Timestamp

/-- A character that a timestamp can have in front of its zone. -/
def IsPlain (c : Char) : Prop := c.isDigit = true ∨ c ∈ ['+', '-', ':', '.', 'T']

theorem IsPlain.ne {c d : Char} (h : IsPlain c) (hdigit : d.isDigit = false)
    (hmark : d ∉ ['+', '-', ':', '.', 'T']) : c ≠ d := by
  rintro rfl
  rcases h with h | h
  · rw [h] at hdigit
    cases hdigit
  · exact hmark h

theorem IsPlain.toUpper_eq {c : Char} (h : IsPlain c) : c.toUpper = c := by
  rcases h with h | h
  · exact Text.toUpper_of_isDigit h
  · simp only [List.mem_cons, List.not_mem_nil, or_false] at h
    rcases h with rfl | rfl | rfl | rfl | rfl <;> decide

namespace Scan

variable {α β : Type} {x y : Scan α} {c : Char}

/-- A scan that takes nothing but plain characters. -/
def TakesPlain (x : Scan α) : Prop :=
  ∀ ⦃cs a rest⦄, x cs = .ok (a, rest) → ∃ taken, (∀ c ∈ taken, IsPlain c) ∧ cs = taken ++ rest

theorem plain_pure {a : α} : TakesPlain (pure a) := by
  intro cs b rest h
  obtain ⟨-, rfl⟩ := pure_eq_ok.mp h
  exact ⟨[], nofun, rfl⟩

theorem plain_bind {f : α → Scan β} (hx : TakesPlain x) (hf : ∀ a, TakesPlain (f a)) :
    TakesPlain (x >>= f) := by
  intro cs b rest h
  obtain ⟨a, mid, hxa, hfa⟩ := bind_eq_ok.mp h
  obtain ⟨taken, htaken, rfl⟩ := hx hxa
  obtain ⟨more, hmore, rfl⟩ := hf a hfa
  exact ⟨taken ++ more, List.forall_mem_append.mpr ⟨htaken, hmore⟩,
    (List.append_assoc taken more rest).symm⟩

theorem plain_get : TakesPlain (get : Scan (List Char)) := by
  intro cs left rest h
  obtain ⟨-, rfl⟩ := get_eq_ok.mp h
  exact ⟨[], nofun, rfl⟩

theorem plain_failFrom {start : List Char} {problem : Problem} :
    TakesPlain (failFrom start problem : Scan α) :=
  fun _ _ _ h => absurd h failFrom_ne_ok

theorem plain_mark {place : String} (hc : IsPlain c) : TakesPlain (mark c place) := by
  intro cs u rest h
  exact ⟨[c], List.forall_mem_singleton.mpr hc, mark_eq_ok.mp h⟩

theorem plain_takes (hc : IsPlain c) : TakesPlain (takes c) := by
  intro cs taken rest h
  cases taken with
  | true => exact ⟨[c], List.forall_mem_singleton.mpr hc, takes_true_eq_ok.mp h⟩
  | false =>
      obtain ⟨rfl, -⟩ := takes_false_eq_ok.mp h
      exact ⟨[], nofun, rfl⟩

theorem plain_field {what : String} {width : Nat} {read? : List Char → Option (α × List Char)}
    (h : ∀ cs a rest, read? cs = some (a, rest) →
      ∃ taken, (∀ c ∈ taken, IsPlain c) ∧ cs = taken ++ rest) :
    TakesPlain (field what width read?) :=
  fun cs a rest hread => h cs a rest (field_eq_ok.mp hread)

end Scan

open Scan

/-! ## Fields -/

theorem plain_two {what : String} {width : Nat} : TakesPlain (field what width two?) := by
  refine plain_field fun cs n rest h => ?_
  simp only [two?, fixed?, Option.ite_none_right_eq_some, Option.some.injEq, Prod.mk.injEq,
    List.all_eq_true] at h
  obtain ⟨⟨-, hdigits⟩, -, rfl⟩ := h
  exact ⟨cs.take 2, fun c hc => Or.inl (hdigits c hc), (List.take_append_drop 2 cs).symm⟩

theorem plain_digits {what : String} {width : Nat} : TakesPlain (field what width digits?) := by
  refine plain_field fun cs ds rest h => ?_
  simp only [digits?, Option.ite_none_left_eq_some, Option.some.injEq, Prod.mk.injEq] at h
  obtain ⟨-, -, rfl⟩ := h
  exact ⟨cs.takeWhile Char.isDigit, fun c hc => Or.inl (List.mem_takeWhile_imp hc),
    List.takeWhile_append_dropWhile.symm⟩

theorem yearNumber?_eq_some {cs rest : List Char} {n : Nat} (h : yearNumber? cs = some (n, rest)) :
    rest = cs.dropWhile Char.isDigit := by
  simp only [yearNumber?, Option.ite_none_right_eq_some, Option.some.injEq, Prod.mk.injEq] at h
  exact h.2.2.symm

/-- A year is an optional sign and all the digits that follow it. -/
theorem year?_eq_some {cs rest : List Char} {y : Int} (h : year? cs = some (y, rest)) :
    ∃ sign ds, (sign = [] ∨ sign = ['+'] ∨ sign = ['-']) ∧ cs = sign ++ ds ∧
      rest = ds.dropWhile Char.isDigit := by
  unfold year? at h
  split at h
  · next ds =>
    obtain ⟨r, hr, hy⟩ := Option.map_eq_some_iff.mp h
    obtain rfl := (Prod.mk.inj hy).2
    exact ⟨['-'], ds, Or.inr (Or.inr rfl), rfl, yearNumber?_eq_some hr⟩
  · next ds =>
    obtain ⟨r, hr, hy⟩ := Option.map_eq_some_iff.mp h
    obtain rfl := (Prod.mk.inj hy).2
    exact ⟨['+'], ds, Or.inr (Or.inl rfl), rfl, yearNumber?_eq_some hr⟩
  · obtain ⟨r, hr, hy⟩ := Option.map_eq_some_iff.mp h
    obtain rfl := (Prod.mk.inj hy).2
    exact ⟨[], cs, Or.inl rfl, rfl, yearNumber?_eq_some hr⟩

theorem plain_year {what : String} {width : Nat} : TakesPlain (field what width year?) := by
  refine plain_field fun cs y rest h => ?_
  obtain ⟨sign, ds, hsign, rfl, rfl⟩ := year?_eq_some h
  have hplain : ∀ c ∈ sign, IsPlain c := by
    rcases hsign with rfl | rfl | rfl
    · exact nofun
    · exact List.forall_mem_singleton.mpr (Or.inr (by decide))
    · exact List.forall_mem_singleton.mpr (Or.inr (by decide))
  exact ⟨sign ++ ds.takeWhile Char.isDigit,
    List.forall_mem_append.mpr ⟨hplain, fun c hc => Or.inl (List.mem_takeWhile_imp hc)⟩,
    by rw [List.append_assoc, List.takeWhile_append_dropWhile]⟩

/-! ## Parts of a timestamp -/

theorem plain_scanDate : TakesPlain scanDate := by
  refine plain_bind plain_get fun start => plain_bind plain_year fun year =>
    plain_bind (plain_mark (Or.inr (by decide))) fun _ => plain_bind plain_two fun month =>
      plain_bind (plain_mark (Or.inr (by decide))) fun _ => plain_bind plain_two fun day => ?_
  split
  · exact plain_pure
  · exact plain_failFrom

theorem plain_scanFraction : TakesPlain scanFraction :=
  plain_bind plain_digits fun _ => plain_pure

theorem plain_scanOptionalFraction (t : PartialTime) : TakesPlain (scanOptionalFraction t) := by
  refine plain_bind (plain_takes (Or.inr (by decide))) fun taken => ?_
  cases taken with
  | true => exact plain_bind plain_scanFraction fun _ => plain_pure
  | false => exact plain_pure

theorem plain_scanOptionalSecond (t : PartialTime) : TakesPlain (scanOptionalSecond t) := by
  refine plain_bind (plain_takes (Or.inr (by decide))) fun taken => ?_
  cases taken with
  | true => exact plain_bind plain_two fun _ => plain_scanOptionalFraction _
  | false => exact plain_pure

theorem plain_scanOptionalMinute (t : PartialTime) : TakesPlain (scanOptionalMinute t) := by
  refine plain_bind (plain_takes (Or.inr (by decide))) fun taken => ?_
  cases taken with
  | true => exact plain_bind plain_two fun _ => plain_scanOptionalSecond _
  | false => exact plain_pure

theorem plain_scanOptionalTime : TakesPlain scanOptionalTime := by
  refine plain_bind plain_get fun start =>
    plain_bind (plain_takes (Or.inr (by decide))) fun taken => ?_
  cases taken with
  | true =>
      refine plain_bind plain_two fun _ => plain_bind (plain_scanOptionalMinute _) fun t => ?_
      dsimp only
      split
      · exact plain_pure
      · exact plain_failFrom
  | false =>
      refine plain_bind plain_pure fun t => ?_
      dsimp only
      split
      · exact plain_pure
      · exact plain_failFrom

theorem plain_scanOffset : TakesPlain scanOffset := by
  refine plain_bind plain_two fun hours => plain_bind (plain_takes (Or.inr (by decide)))
    fun taken => plain_bind plain_get fun left => ?_
  split
  · exact plain_bind plain_two fun _ => plain_pure
  · exact plain_bind plain_pure fun _ => plain_pure

theorem plain_scanSignedOffset (start : List Char) (sign : Int) :
    TakesPlain (scanSignedOffset start sign) := by
  refine plain_bind plain_scanOffset fun offset => ?_
  obtain ⟨hours, minutes⟩ := offset
  show TakesPlain (if greatestOffsetHours < hours ∨ 59 < minutes then _ else _)
  split
  · exact plain_failFrom
  · exact plain_pure

/-! ## The whole -/

theorem scanZone_taken {cs rest : List Char} {offset : Int}
    (h : scanZone cs = .ok (offset, rest)) :
    (∃ taken, (∀ c ∈ taken, IsPlain c) ∧ cs = taken ++ rest) ∨ cs = 'Z' :: rest := by
  obtain ⟨start, r₁, hget, h₁⟩ := Scan.bind_eq_ok.mp h
  obtain ⟨rfl, rfl⟩ := get_eq_ok.mp hget
  obtain ⟨utc, r₂, hutc, h₂⟩ := Scan.bind_eq_ok.mp h₁
  cases utc with
  | true =>
      obtain ⟨-, rfl⟩ := Scan.pure_eq_ok.mp h₂
      exact Or.inr (takes_true_eq_ok.mp hutc)
  | false =>
      -- from here on it is a scan like the others
      obtain ⟨rfl, -⟩ := takes_false_eq_ok.mp hutc
      refine Or.inl (plain_bind (plain_takes (Or.inr (by decide))) (fun plus => ?_) h₂)
      cases plus with
      | true => exact plain_scanSignedOffset _ 1
      | false =>
          refine plain_bind (plain_takes (Or.inr (by decide))) fun minus => ?_
          cases minus with
          | true => exact plain_scanSignedOffset _ (-1)
          | false => exact plain_pure

/-- A timestamp is made of plain characters, and may end in a `Z`. -/
theorem alphabet_of_readOptionalTime {text : List Char} {r : Reading}
    (h : readOptionalTime text = .ok r) :
    ∃ taken zone, (∀ c ∈ taken, IsPlain c) ∧ IsZone zone ∧ text = taken ++ zone := by
  obtain ⟨parts, hparts, -⟩ := Almanac.bind_eq_ok.mp h
  obtain ⟨rest, hscan⟩ := run_eq_ok.mp hparts
  obtain ⟨date, r₁, hdate, h₁⟩ := Scan.bind_eq_ok.mp hscan
  obtain ⟨time, r₂, htime, h₂⟩ := Scan.bind_eq_ok.mp h₁
  obtain ⟨offset, r₃, hzone, h₃⟩ := Scan.bind_eq_ok.mp h₂
  obtain ⟨u, r₄, hfinish, -⟩ := Scan.bind_eq_ok.mp h₃
  obtain ⟨rfl, -⟩ := finish_eq_ok.mp hfinish
  obtain ⟨front, hfront, rfl⟩ := plain_scanDate hdate
  obtain ⟨middle, hmiddle, rfl⟩ := plain_scanOptionalTime htime
  have hplain : ∀ c ∈ front ++ middle, IsPlain c := List.forall_mem_append.mpr ⟨hfront, hmiddle⟩
  rcases scanZone_taken hzone with ⟨more, hmore, rfl⟩ | rfl
  · exact ⟨front ++ middle ++ more, [], List.forall_mem_append.mpr ⟨hplain, hmore⟩, Or.inl rfl,
      by simp only [List.append_assoc, List.append_nil]⟩
  · exact ⟨front ++ middle, ['Z'], hplain, Or.inr rfl, (List.append_assoc _ _ _).symm⟩

theorem plain_of_zone {stamp : List Char} {r : Reading}
    (h : readOptionalTime (stamp ++ ['Z']) = .ok r) : ∀ c ∈ stamp, IsPlain c := by
  obtain ⟨taken, zone, htaken, rfl | rfl, heq⟩ := alphabet_of_readOptionalTime h
  · intro c hc
    refine htaken c ?_
    rw [← List.append_nil taken, ← heq]
    exact List.mem_append_left _ hc
  · rwa [List.append_cancel_right heq]

theorem year?_of_digits {sign ds rest : List Char} {y : Int}
    (hsign : sign = [] ∨ sign = ['+'] ∨ sign = ['-']) (hds : ∀ c ∈ ds, c.isDigit = true)
    (h : year? (sign ++ ds) = some (y, rest)) : rest = [] := by
  have hnumber : ∀ {r : Nat × List Char}, yearNumber? ds = some r → r.2 = [] := by
    intro r hr
    rw [yearNumber?_eq_some hr]
    exact List.dropWhile_eq_nil_iff.mpr hds
  have hmap : ∀ {f : Nat → Int}, ((yearNumber? ds).map fun r => (f r.1, r.2)) = some (y, rest) →
      rest = [] := by
    intro f hf
    obtain ⟨r, hr, hy⟩ := Option.map_eq_some_iff.mp hf
    exact (Prod.mk.inj hy).2 ▸ hnumber hr
  rcases hsign with rfl | rfl | rfl
  · cases ds with
    | nil => cases h
    | cons c cs =>
        rw [List.nil_append, year?_of_isDigit (hds c List.mem_cons_self)] at h
        exact hmap h
  · exact hmap h
  · exact hmap (f := fun n => -(n : Int)) h

theorem not_ok_of_digits {sign ds : List Char} (hsign : sign = [] ∨ sign = ['+'] ∨ sign = ['-'])
    (hds : ∀ c ∈ ds, c.isDigit = true) (r : Reading) : readOptionalTime (sign ++ ds) ≠ .ok r := by
  intro h
  obtain ⟨parts, hparts, -⟩ := Almanac.bind_eq_ok.mp h
  obtain ⟨rest, hscan⟩ := run_eq_ok.mp hparts
  obtain ⟨date, r₁, hdate, -⟩ := Scan.bind_eq_ok.mp hscan
  obtain ⟨year, month, day, r₂, r₃, hyear, -⟩ := scanDate_eq_ok_iff.mp hdate
  -- the dash after the year would be in an empty rest
  cases year?_of_digits hsign hds hyear

end Almanac.Timestamp
