import Almanac.Proofs.Fault.Place
import Almanac.Proofs.Timestamp.Alphabet
/-!
# Where a timestamp is refused

A scan goes on with an end of the text that it began on, and where it slips, an end of the text is
left too (`StaysIn`).  The property is one of the whole text and not of what is left to the scan,
for a date or a time that does not exist is blamed from its beginning, which the scan has passed by
then.  It composes over sequences, so each scan has it because its steps have it, and the span of
the fault begins where the slip left off and stops with the text (`run_eq_error`).
-/

namespace Almanac.Timestamp

open Calendar

variable {text : List Char}

namespace Scan

variable {α β : Type} {x y : Scan α} {cs rest : List Char} {slip : Slip}

theorem bind_eq_error {f : α → Scan β} :
    (x >>= f) cs = .error slip ↔
      x cs = .error slip ∨ ∃ a rest, x cs = .ok (a, rest) ∧ f a rest = .error slip := by
  show (x cs >>= fun p => f p.1 p.2) = .error slip ↔ _
  rw [Almanac.bind_eq_error]
  constructor
  · rintro (hx | ⟨⟨a, rest⟩, hx, hf⟩)
    · exact Or.inl hx
    · exact Or.inr ⟨a, rest, hx, hf⟩
  · rintro (hx | ⟨a, rest, hx, hf⟩)
    · exact Or.inl hx
    · exact Or.inr ⟨(a, rest), hx, hf⟩

/-- A scan that leaves ends of the text, also where it slips. -/
structure StaysIn (text : List Char) (x : Scan α) : Prop where
  rest : ∀ ⦃cs a rest⦄, cs <:+ text → x cs = .ok (a, rest) → rest <:+ text
  slip : ∀ ⦃cs slip⦄, cs <:+ text → x cs = .error slip → slip.rest <:+ text

theorem stays_pure {a : α} : StaysIn text (pure a) where
  rest := by
    intro cs b rest hcs h
    obtain ⟨-, rfl⟩ := pure_eq_ok.mp h
    exact hcs
  slip := nofun

theorem stays_bind {f : α → Scan β} (hx : StaysIn text x) (hf : ∀ a, StaysIn text (f a)) :
    StaysIn text (x >>= f) where
  rest := by
    intro cs b rest hcs h
    obtain ⟨a, mid, hxa, hfa⟩ := bind_eq_ok.mp h
    exact (hf a).rest (hx.rest hcs hxa) hfa
  slip := by
    intro cs slip hcs h
    rcases bind_eq_error.mp h with hslip | ⟨a, mid, hxa, hslip⟩
    · exact hx.slip hcs hslip
    · exact (hf a).slip (hx.rest hcs hxa) hslip

/-- What is left at a place is an end of the text. -/
theorem stays_get_bind {f : List Char → Scan β}
    (hf : ∀ start, start <:+ text → StaysIn text (f start)) : StaysIn text (get >>= f) where
  rest := fun cs _ _ hcs h => (hf cs hcs).rest hcs h
  slip := fun cs _ hcs h => (hf cs hcs).slip hcs h

theorem stays_failFrom {start : List Char} {problem : Problem} (h : start <:+ text) :
    StaysIn text (failFrom start problem : Scan α) where
  rest := nofun
  slip := by
    intro cs slip _ hslip
    cases hslip
    exact h

theorem stays_field {what : String} {width : Nat} {read? : List Char → Option (α × List Char)}
    (h : ∀ cs a rest, read? cs = some (a, rest) → rest <:+ cs) :
    StaysIn text (field what width read?) where
  rest := fun cs a rest hcs hread => (h cs a rest (field_eq_ok.mp hread)).trans hcs
  slip := by
    intro cs slip hcs hslip
    unfold field at hslip
    split at hslip
    · cases hslip
    · cases hslip
      exact hcs

theorem stays_mark {c : Char} {place : String} : StaysIn text (mark c place) where
  rest := by
    intro cs _ rest hcs h
    obtain rfl := mark_eq_ok.mp h
    exact (List.suffix_cons c rest).trans hcs
  slip := by
    intro cs slip hcs hslip
    unfold mark at hslip
    split at hslip
    · cases hslip
      exact hcs
    · split at hslip
      · cases hslip
      · cases hslip
        exact hcs

theorem stays_takes {c : Char} : StaysIn text (takes c) where
  rest := by
    intro cs taken rest hcs h
    cases taken with
    | true =>
        obtain rfl := takes_true_eq_ok.mp h
        exact (List.suffix_cons c rest).trans hcs
    | false =>
        obtain ⟨rfl, -⟩ := takes_false_eq_ok.mp h
        exact hcs
  slip := by
    intro cs slip _ hslip
    unfold takes at hslip
    split at hslip
    · cases hslip
    · split at hslip
      · cases hslip
      · cases hslip

theorem stays_finish : StaysIn text finish where
  rest := by
    intro cs _ rest hcs h
    obtain ⟨rfl, rfl⟩ := finish_eq_ok.mp h
    exact hcs
  slip := by
    intro cs slip hcs hslip
    unfold finish at hslip
    split at hslip
    · cases hslip
    · cases hslip
      exact hcs

/-! ## Slips as faults -/

theorem fitsIn_of_slip (h : slip.rest <:+ text) : (slip.span text).FitsIn text := by
  obtain ⟨before, rfl⟩ := h
  have hbefore := Text.byteLength_sub (rfl : before ++ slip.rest = before ++ slip.rest)
  have hle : Text.byteLength before ≤ Text.byteLength (before ++ slip.rest) := by
    rw [Text.byteLength_append]
    exact Nat.le_add_right _ _
  refine ⟨Nat.min_le_right _ _, before, List.prefix_append before slip.rest, ?_⟩
  show min (_ - _) _ = _
  rw [hbefore, Nat.min_eq_left hle]

theorem run_eq_error {fault : Fault} (hx : StaysIn text x) (h : x.run text = .error fault) :
    fault.Slipped text := by
  obtain ⟨slip, hslip, rfl⟩ := run_eq_error_iff.mp h
  exact .timestamp (fitsIn_of_slip (hx.slip (List.suffix_refl text) hslip))

end Scan

open Scan

/-! ## Fields -/

theorem stays_two {what : String} {width : Nat} : StaysIn text (field what width two?) := by
  refine stays_field fun cs n rest h => ?_
  simp only [two?, fixed?, Option.ite_none_right_eq_some, Option.some.injEq, Prod.mk.injEq] at h
  obtain ⟨-, -, rfl⟩ := h
  exact List.drop_suffix 2 cs

theorem stays_digits {what : String} {width : Nat} : StaysIn text (field what width digits?) := by
  refine stays_field fun cs ds rest h => ?_
  simp only [digits?, Option.ite_none_left_eq_some, Option.some.injEq, Prod.mk.injEq] at h
  obtain ⟨-, -, rfl⟩ := h
  exact List.dropWhile_suffix Char.isDigit

theorem stays_year {what : String} {width : Nat} : StaysIn text (field what width year?) := by
  refine stays_field fun cs y rest h => ?_
  obtain ⟨sign, ds, -, rfl, rfl⟩ := year?_eq_some h
  exact (List.dropWhile_suffix Char.isDigit).trans (List.suffix_append sign ds)

/-! ## Parts of a timestamp -/

theorem stays_scanDate : StaysIn text scanDate := by
  refine stays_get_bind fun start hstart => stays_bind stays_year fun year =>
    stays_bind stays_mark fun _ => stays_bind stays_two fun month =>
      stays_bind stays_mark fun _ => stays_bind stays_two fun day => ?_
  split
  · exact stays_pure
  · exact stays_failFrom hstart

theorem stays_scanTime : StaysIn text scanTime := by
  refine stays_get_bind fun start hstart => stays_bind stays_two fun hour =>
    stays_bind stays_mark fun _ => stays_bind stays_two fun minute =>
      stays_bind stays_mark fun _ => stays_bind stays_two fun second => ?_
  split
  · exact stays_pure
  · exact stays_failFrom hstart

theorem stays_scanFraction : StaysIn text scanFraction :=
  stays_bind stays_digits fun _ => stays_pure

theorem stays_scanOptionalFraction (t : PartialTime) :
    StaysIn text (scanOptionalFraction t) := by
  refine stays_bind stays_takes fun taken => ?_
  cases taken with
  | true => exact stays_bind stays_scanFraction fun _ => stays_pure
  | false => exact stays_pure

theorem stays_scanOptionalSecond (t : PartialTime) : StaysIn text (scanOptionalSecond t) := by
  refine stays_bind stays_takes fun taken => ?_
  cases taken with
  | true => exact stays_bind stays_two fun _ => stays_scanOptionalFraction _
  | false => exact stays_pure

theorem stays_scanOptionalMinute (t : PartialTime) : StaysIn text (scanOptionalMinute t) := by
  refine stays_bind stays_takes fun taken => ?_
  cases taken with
  | true => exact stays_bind stays_two fun _ => stays_scanOptionalSecond _
  | false => exact stays_pure

theorem stays_scanOptionalTime : StaysIn text scanOptionalTime := by
  refine stays_get_bind fun start hstart => stays_bind stays_takes fun taken => ?_
  cases taken with
  | true =>
      refine stays_bind stays_two fun _ => stays_bind (stays_scanOptionalMinute _) fun t => ?_
      dsimp only
      split
      · exact stays_pure
      · exact stays_failFrom hstart
  | false =>
      refine stays_bind stays_pure fun t => ?_
      dsimp only
      split
      · exact stays_pure
      · exact stays_failFrom hstart

theorem stays_scanOffset : StaysIn text scanOffset := by
  refine stays_bind stays_two fun hours => stays_bind stays_takes fun taken =>
    stays_get_bind fun left _ => ?_
  split
  · exact stays_bind stays_two fun _ => stays_pure
  · exact stays_bind stays_pure fun _ => stays_pure

theorem stays_scanSignedOffset {start : List Char} (hstart : start <:+ text) (sign : Int) :
    StaysIn text (scanSignedOffset start sign) := by
  refine stays_bind stays_scanOffset fun offset => ?_
  obtain ⟨hours, minutes⟩ := offset
  show StaysIn text (if greatestOffsetHours < hours ∨ 59 < minutes then _ else _)
  split
  · exact stays_failFrom hstart
  · exact stays_pure

theorem stays_scanZone : StaysIn text scanZone := by
  refine stays_get_bind fun start hstart => stays_bind stays_takes fun utc => ?_
  cases utc with
  | true => exact stays_pure
  | false =>
      refine stays_bind stays_takes fun plus => ?_
      cases plus with
      | true => exact stays_scanSignedOffset hstart 1
      | false =>
          refine stays_bind stays_takes fun minus => ?_
          cases minus with
          | true => exact stays_scanSignedOffset hstart (-1)
          | false => exact stays_pure

/-! ## Whole timestamps -/

theorem stays_scanCanonical : StaysIn text scanCanonical := by
  have hend : ∀ (date : Date) (time : Nat) (fraction : Option Nat), StaysIn text (do
      let _ ← takes 'Z'
      finish
      return ((⟨date, time⟩, fraction) : Moment × Option Nat)) := fun date time fraction =>
    stays_bind stays_takes fun _ => stays_bind stays_finish fun _ => stays_pure
  refine stays_bind stays_scanDate fun date => stays_bind stays_mark fun _ =>
    stays_bind stays_scanTime fun time => stays_bind stays_takes fun point => ?_
  cases point with
  | true =>
      exact stays_bind (stays_bind stays_scanFraction fun _ => stays_pure) (hend date time)
  | false => exact stays_bind stays_pure (hend date time)

theorem stays_scanDateOptionalTime : StaysIn text scanDateOptionalTime :=
  stays_bind stays_scanDate fun _ => stays_bind stays_scanOptionalTime fun _ =>
    stays_bind stays_scanZone fun _ => stays_bind stays_finish fun _ => stays_pure

variable {fault : Fault}

theorem slipped_of_readCanonical (h : readCanonical text = .error fault) :
    fault.Slipped text := by
  rcases Almanac.bind_eq_error.mp h with hscan | ⟨⟨moment, fraction⟩, -, h⟩
  · exact run_eq_error stays_scanCanonical hscan
  · rcases Almanac.bind_eq_error.mp h with hshift | ⟨instant, -, h⟩
    · obtain ⟨-, rfl⟩ := Instant.require_eq_error.mp hshift
      exact .outOfRange
    · cases h

theorem slipped_of_readOptionalTime (h : readOptionalTime text = .error fault) :
    fault.Slipped text := by
  rcases Almanac.bind_eq_error.mp h with hscan | ⟨parts, -, h⟩
  · exact run_eq_error stays_scanDateOptionalTime hscan
  · rcases Almanac.bind_eq_error.mp h with hshift | ⟨instant, -, h⟩
    · obtain ⟨-, rfl⟩ := Instant.require_eq_error.mp hshift
      exact .outOfRange
    · cases h

end Almanac.Timestamp
