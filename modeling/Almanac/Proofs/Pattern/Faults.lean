import Almanac.Proofs.Fault.Place
import Almanac.Proofs.Pattern.Items
/-!
# Where a pattern is refused

A pattern is taken apart from its end, and a run that has been found grows to the left by a letter
that stands in front of it.  So a run never takes more bytes than there are from its beginning on,
wherever in the pattern it begins (`partsFrom_lies`).  A quote that is never closed is remembered
from where it opened, which may be in front of the place at hand; its part lies in the text of that
place.
-/

namespace Almanac.Pattern

variable {cs after pattern text : List Char} {letter : Char} {fault : Fault}

/-- The part begins with an end of the text, and takes no more of it than there is. -/
def Part.LiesIn (text : List Char) : Part → Prop
  | .literal _ => True
  | .run _ count rest => rest <:+ text ∧ count ≤ Text.byteLength rest
  | .unclosed rest => rest <:+ text

theorem Part.LiesIn.mono {p : Part} (h : p.LiesIn cs) (htext : cs <:+ text) : p.LiesIn text := by
  cases p with
  | literal c => trivial
  | run letter count rest => exact ⟨h.1.trans htext, h.2⟩
  | unclosed rest => exact h.trans htext

theorem one_run_lies (letter : Char) (cs : List Char) :
    (Part.run letter 1 (letter :: cs)).LiesIn (letter :: cs) :=
  ⟨List.suffix_refl _, Nat.le_add_right_of_le letter.utf8Size_pos⟩

theorem addLetter_lies {parts : List Part} (h : ∀ p ∈ parts, p.LiesIn cs) :
    ∀ p ∈ addLetter letter (letter :: cs) parts, p.LiesIn (letter :: cs) := by
  have hmono : ∀ p ∈ parts, p.LiesIn (letter :: cs) :=
    fun p hp => (h p hp).mono (List.suffix_cons letter cs)
  unfold addLetter
  split
  · next other count after rest =>
    split
    · -- the run begins with what is left, so that one byte more is enough
      obtain ⟨hafter, hcount⟩ := h _ List.mem_cons_self
      have hle : Text.byteLength after ≤ Text.byteLength cs := by
        obtain ⟨before, rfl⟩ := hafter
        rw [Text.byteLength_append]
        exact Nat.le_add_left _ _
      have hpos := letter.utf8Size_pos
      refine List.forall_mem_cons.mpr
        ⟨⟨List.suffix_refl _, ?_⟩, (List.forall_mem_cons.mp hmono).2⟩
      rw [Text.byteLength]
      omega
    · exact List.forall_mem_cons.mpr ⟨one_run_lies letter cs, hmono⟩
  · exact List.forall_mem_cons.mpr ⟨one_run_lies letter cs, hmono⟩

theorem partsFrom_cons {quote : Option (List Char)} {c : Char}
    (h : ∀ rest, c = '\'' → cs = '\'' :: rest → False) :
    partsFrom quote (c :: cs) =
      if c = '\'' then
        match quote with
        | none => partsFrom (some (c :: cs)) cs
        | some _ => partsFrom none cs
      else if quote = none ∧ c.isAlpha then addLetter c (c :: cs) (partsFrom none cs)
      else .literal c :: partsFrom quote cs := by
  cases quote with
  | none => exact partsFrom.eq_3 c cs h
  | some opened => exact partsFrom.eq_4 c cs opened h

/-- The parts lie in what is left, but for the quote that is open already. -/
theorem partsFrom_lies (quote : Option (List Char)) (cs : List Char) :
    ∀ p ∈ partsFrom quote cs, p.LiesIn cs ∨ ∃ rest, quote = some rest ∧ p = .unclosed rest := by
  induction quote, cs using partsFrom.induct with
  | case1 quote =>
      intro p hp
      cases quote with
      | none => cases hp
      | some rest => exact Or.inr ⟨rest, rfl, List.mem_singleton.mp hp⟩
  | case2 quote cs ih =>
      intro p hp
      rw [partsFrom] at hp
      rcases List.mem_cons.mp hp with rfl | hp
      · exact Or.inl trivial
      · exact (ih p hp).imp_left fun h => h.mono (List.suffix_append ['\'', '\''] cs)
  | case3 cs hquotes ih =>
      -- a quote opens
      intro p hp
      rw [partsFrom_cons hquotes, if_pos rfl] at hp
      rcases ih p hp with h | ⟨rest, hrest, rfl⟩
      · exact Or.inl (h.mono (List.suffix_cons _ cs))
      · obtain rfl := Option.some.inj hrest
        exact Or.inl (List.suffix_refl _)
  | case4 cs opened hquotes ih =>
      -- the open quote closes
      intro p hp
      rw [partsFrom_cons hquotes, if_pos rfl] at hp
      rcases ih p hp with h | ⟨rest, hrest, -⟩
      · exact Or.inl (h.mono (List.suffix_cons _ cs))
      · cases hrest
  | case5 quote c cs hquotes hc hletter ih =>
      intro p hp
      rw [partsFrom_cons hquotes, if_neg hc, if_pos hletter] at hp
      refine Or.inl (addLetter_lies (fun p hp => ?_) p hp)
      rcases ih p hp with h | ⟨rest, hrest, -⟩
      · exact h
      · cases hrest
  | case6 quote c cs hquotes hc hletter ih =>
      intro p hp
      rw [partsFrom_cons hquotes, if_neg hc, if_neg hletter] at hp
      rcases List.mem_cons.mp hp with rfl | hp
      · exact Or.inl trivial
      · exact (ih p hp).imp_left fun h => h.mono (List.suffix_cons c cs)

theorem fitsIn_of_slip {slip : Slip} (hrest : slip.rest <:+ pattern)
    (hwidth : slip.width ≤ Text.byteLength slip.rest) : (slip.span pattern).FitsIn pattern := by
  refine Span.fitsIn_of_suffix hrest ?_
  obtain ⟨before, rfl⟩ := hrest
  rw [Text.byteLength_sub rfl, Text.byteLength_append]
  exact Nat.add_le_add_left hwidth _

theorem fitsIn_of_item {p : Part} {slip : Slip} (hp : p ∈ parts pattern)
    (h : p.item = .error slip) : (slip.span pattern).FitsIn pattern := by
  have hlies : p.LiesIn pattern := by
    rcases partsFrom_lies none pattern p hp with h | ⟨rest, hrest, -⟩
    · exact h
    · cases hrest
  cases p with
  | literal c => cases h
  | run letter count rest =>
      unfold Part.item at h
      dsimp only at h
      split at h
      · cases h
      · cases h
        exact fitsIn_of_slip hlies.1 hlies.2
  | unclosed rest =>
      cases h
      exact fitsIn_of_slip hlies (Nat.le_refl _)

theorem miswritten_of_compile (h : compile pattern = .error fault) :
    fault.Miswritten pattern := by
  rcases bind_eq_error.mp h with hitems | ⟨items, -, h⟩
  · obtain ⟨slip, hslip, rfl⟩ := mapError_eq_error.mp hitems
    obtain ⟨p, hp, hitem⟩ := mem_of_mapM_eq_error hslip
    exact .pattern (fitsIn_of_item hp hitem)
  · have hwhole : ∀ problem,
        (Slip.toFault ⟨pattern, Text.byteLength pattern, problem⟩ pattern).Miswritten pattern :=
      fun _ => .pattern (fitsIn_of_slip (List.suffix_refl pattern) (Nat.le_refl _))
    split at h
    · split at h
      · cases h
      · cases h
        exact hwhole .inexpressible
    · cases h
      exact hwhole .noFields

/-- A text that does not match is to blame as a whole. -/
theorem slipped_of_read {p : Pattern} (h : p.read text = .error fault) : fault.Slipped text := by
  rcases bind_eq_error.mp h with h | ⟨⟨millis, offset⟩, -, h⟩
  · obtain ⟨mismatch, -, rfl⟩ := mapError_eq_error.mp h
    exact .timestamp (Span.fitsIn_whole text)
  · cases h

end Almanac.Pattern
