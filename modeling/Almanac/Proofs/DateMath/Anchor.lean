import Mathlib.Data.List.TakeDrop
import Almanac.Proofs.DateMath.Reading
import Almanac.Proofs.Timestamp.Alphabet
/-!
# What date math starts from

A text of date math is its anchor and the rest, which is read as operations (`Anchored`).  The
anchor is `NOW` or ends at the first `Z`, and since no timestamp has a `Z` before its end, that is
where the timestamp ends.

It follows how the default display format and date math share texts.  Both read a text only if it is
a canonical timestamp with its `Z`; then there are no operations after it, and the two readings are
one (`read_of_readOptionalTime`).
-/

namespace Almanac.DateMath

open Timestamp

variable {text stamp rest : List Char} {anchor : Anchor} {precision : CalendarUnit}

/-- Date math that starts from an anchor, with its operations in `rest`. -/
def Anchored (text : List Char) (anchor : Anchor) (precision : CalendarUnit) (rest : List Char) :
    Prop :=
  read text = (readSuffix text rest).map fun ops => some ⟨⟨anchor, ops⟩, precision⟩

theorem anchored_now (h : Text.upper text = nowWord ++ rest) :
    Anchored text .now .millisecond rest := by
  unfold Anchored read
  simp only [Text.after?_eq_some_iff.mpr h]
  cases readSuffix text rest <;> rfl

/-! ## The first `Z` -/

theorem after?_nowWord_eq_none {cs : List Char} (h : cs.head? ≠ some 'N') :
    Text.after? nowWord cs = none := by
  cases hafter : Text.after? nowWord cs with
  | none => rfl
  | some suffix =>
      rw [Text.after?_eq_some_iff.mp hafter] at h
      exact absurd rfl h

theorem splitAtZone?_eq_none {cs : List Char} (h : ∀ c ∈ cs, c ≠ 'Z') :
    splitAtZone? cs = none := by
  have hall : ∀ c ∈ cs, decide (c ≠ 'Z') = true := fun c hc => decide_eq_true (h c hc)
  simp only [splitAtZone?, List.span_eq_takeWhile_dropWhile,
    List.takeWhile_eq_self_iff.mpr hall, List.dropWhile_eq_nil_iff.mpr hall]
  cases cs <;> rfl

theorem splitAtZone?_eq_some (h : ∀ c ∈ stamp, c ≠ 'Z') (hne : stamp ≠ []) :
    splitAtZone? (stamp ++ 'Z' :: rest) = some (stamp ++ ['Z'], rest) := by
  have hall : ∀ c ∈ stamp, decide (c ≠ 'Z') = true := fun c hc => decide_eq_true (h c hc)
  have hstop : Text.Stops (fun c => decide (c ≠ 'Z')) ('Z' :: rest) :=
    Text.stops_cons (by decide)
  simp only [splitAtZone?, List.span_eq_takeWhile_dropWhile, Text.takeWhile_run hall hstop,
    Text.dropWhile_run hall hstop]

theorem eq_append_of_splitAtZone {cs : List Char} (h : splitAtZone? cs = some (stamp, rest)) :
    cs = stamp ++ rest := by
  unfold splitAtZone? at h
  rw [List.span_eq_takeWhile_dropWhile] at h
  split at h
  · cases h
  · cases h
  · next before z rest' _ hspan =>
    obtain ⟨htake, hdrop⟩ := Prod.mk.inj hspan
    cases h
    rw [List.append_assoc, List.singleton_append, ← htake, ← hdrop,
      List.takeWhile_append_dropWhile]

theorem read_eq_none (h : ∀ c ∈ Text.upper text, c ≠ 'N' ∧ c ≠ 'Z') : read text = .ok none := by
  have hhead : (Text.upper text).head? ≠ some 'N' :=
    fun hN => (h 'N' (List.mem_of_head? hN)).1 rfl
  simp only [read, after?_nowWord_eq_none hhead, splitAtZone?_eq_none fun c hc => (h c hc).2]
  rfl

/-! ## Timestamps -/

theorem ne_anchor_of_plain {c : Char} (h : IsPlain c) : c ≠ 'N' ∧ c ≠ 'Z' :=
  ⟨h.ne (by decide) (by decide), h.ne (by decide) (by decide)⟩

theorem head?_ne (h : ∀ c ∈ stamp, IsPlain c) : (stamp ++ 'Z' :: rest).head? ≠ some 'N' := by
  cases stamp with
  | nil => simp
  | cons c stamp =>
      intro hN
      exact (ne_anchor_of_plain (h c List.mem_cons_self)).1 (Option.some.inj hN)

/-- The reading of a timestamp that ends at the first `Z` is the anchor. -/
theorem anchored_literal {r : Reading} (h : Text.upper text = stamp ++ 'Z' :: rest)
    (hr : readCanonical (stamp ++ ['Z']) = .ok r) :
    Anchored text (.literal r.instant) r.precision rest := by
  have hplain := plain_of_zone (readOptionalTime_of_readCanonical hr)
  have hne : stamp ≠ [] := by
    rintro rfl
    cases hr
  unfold Anchored read
  simp only [h, after?_nowWord_eq_none (head?_ne hplain),
    splitAtZone?_eq_some (fun c hc => (ne_anchor_of_plain (hplain c hc)).2) hne, hr]
  cases readSuffix text rest <;> rfl

/-- A text that both the default format and date math read is a canonical timestamp by itself. -/
theorem read_of_readOptionalTime {r : Reading} {p : Parsed} (h : readOptionalTime text = .ok r)
    (hp : read text = .ok (some p)) :
    p = ⟨⟨.literal r.instant, []⟩, r.precision⟩ ∧ readCanonical text = .ok r := by
  obtain ⟨stamp, zone, hplain, hzone, rfl⟩ := alphabet_of_readOptionalTime h
  have hanchor : ∀ c ∈ stamp, c ≠ 'N' ∧ c ≠ 'Z' := fun c hc => ne_anchor_of_plain (hplain c hc)
  have hstamp : Text.upper stamp = stamp := Text.upper_eq_self fun c hc => (hplain c hc).toUpper_eq
  rcases hzone with rfl | rfl
  · -- without a zone there is nothing to start from
    rw [List.append_nil] at hp
    cases (read_eq_none (by rwa [hstamp])).symm.trans hp
  · have hupper : Text.upper (stamp ++ ['Z']) = stamp ++ ['Z'] := by
      rw [Text.upper_append, hstamp]
      rfl
    have hne : stamp ≠ [] := by
      rintro rfl
      cases h
    simp only [read, hupper, after?_nowWord_eq_none (head?_ne hplain),
      splitAtZone?_eq_some (fun c hc => (hanchor c hc).2) hne] at hp
    obtain ⟨anchor, hread, hp⟩ := bind_eq_ok.mp hp
    have hcanonical := mapError_eq_ok.mp hread
    obtain rfl : anchor = r :=
      Except.ok.inj ((readOptionalTime_of_readCanonical hcanonical).symm.trans h)
    obtain ⟨ops, hops, hp⟩ := bind_eq_ok.mp hp
    -- the text ends at its `Z`, so no operation can follow
    obtain rfl : ops = [] := by
      rw [readSuffix, mapError_eq_ok, readOperations, mapError_eq_ok,
        scanOperations_eq_ok_iff] at hops
      rcases hops with ⟨-, rfl⟩ | ⟨op, rest, ops', hop, -⟩
      · rfl
      · cases hop
    exact ⟨(Option.some.inj (pure_eq_ok.mp hp)).symm, hcanonical⟩

end Almanac.DateMath
