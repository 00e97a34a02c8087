import Almanac.Proofs.DateMath.Anchor
import Almanac.Proofs.Timestamp.Faults
/-!
# Where date math is refused

Operations are read from ends of the suffix, and where one slips an end of the suffix is left
(`slip_of_scanOperations`).  The suffix in turn is an end of the whole text in upper case, and the
timestamp of a literal anchor is its beginning, so both kinds of fault are moved to the whole text by
the bytes in front of them (`slipped_of_read`).
-/

namespace Almanac.DateMath

variable {cs rest text : List Char} {sign : Char} {slip : Slip} {fault : Fault}

/-! ## One operation -/

theorem slip_of_readUnit (h : readUnit cs = .error slip) : slip.rest <:+ cs := by
  rcases bind_eq_error.mp h with h | ⟨unit, -, h⟩
  · unfold unitOf at h
    split at h
    · cases h
      exact List.suffix_refl cs
    · split at h
      · cases h
      · cases h
        exact List.suffix_refl cs
  · cases h

theorem slip_of_readAmount (h : readAmount sign cs = .error slip) : slip.rest <:+ cs := by
  rcases bind_eq_error.mp h with h | ⟨amount, -, h⟩
  · unfold amountOf at h
    split at h
    · cases h
      exact List.suffix_refl cs
    · split at h
      · cases h
      · cases h
        exact List.suffix_refl cs
  · cases h

theorem slip_of_readRound (h : readRound cs = .error slip) : slip.rest <:+ cs := by
  rcases bind_eq_error.mp h with h | ⟨unit, -, h⟩
  · exact slip_of_readUnit h
  · cases h

theorem slip_of_readOffset (h : readOffset sign cs = .error slip) : slip.rest <:+ cs := by
  rcases bind_eq_error.mp h with h | ⟨⟨amount, mid⟩, hamount, h⟩
  · exact slip_of_readAmount h
  · obtain ⟨-, -, rfl⟩ := readAmount_eq_ok_iff.mp hamount
    rcases bind_eq_error.mp h with h | ⟨unit, -, h⟩
    · exact (slip_of_readUnit h).trans (List.dropWhile_suffix Char.isDigit)
    · cases h

theorem slip_of_readOperation (h : readOperation cs = .error slip) : slip.rest <:+ cs := by
  unfold readOperation at h
  split at h
  · exact (slip_of_readRound h).trans (List.suffix_cons _ _)
  · exact (slip_of_readOffset h).trans (List.suffix_cons _ _)
  · exact (slip_of_readOffset h).trans (List.suffix_cons _ _)
  · cases h
    exact List.suffix_refl cs

theorem Reads.suffix {op : Operation} (h : Reads cs op rest) : rest <:+ cs := by
  cases h with
  | round hunit =>
      obtain ⟨-, -, rfl⟩ := readUnit_eq_ok_iff.mp hunit
      exact (List.dropWhile_suffix Char.isAlpha).trans (List.suffix_cons _ _)
  | offset hsign hamount hunit =>
      obtain ⟨-, -, rfl⟩ := readAmount_eq_ok_iff.mp hamount
      obtain ⟨-, -, rfl⟩ := readUnit_eq_ok_iff.mp hunit
      exact ((List.dropWhile_suffix Char.isAlpha).trans (List.dropWhile_suffix Char.isDigit)).trans
        (List.suffix_cons _ _)

/-! ## All operations -/

theorem scanOperations_eq_error (h : scanOperations cs = .error slip) :
    readOperation cs = .error slip ∨
      ∃ op rest, Reads cs op rest ∧ scanOperations rest = .error slip := by
  rw [scanOperations] at h
  split at h
  · cases h
  · split at h
    · next slip' hslip =>
      cases h
      exact Or.inl hslip
    · next r hr =>
      exact Or.inr ⟨r.1, r.2, readOperation_eq_ok_iff.mp hr, map_eq_error.mp h⟩

theorem slip_of_scanOperations : ∀ {cs : List Char} {slip : Slip},
    scanOperations cs = .error slip → slip.rest <:+ cs := by
  intro cs slip h
  rcases scanOperations_eq_error h with h | ⟨op, rest, hop, h⟩
  · exact slip_of_readOperation h
  · have := hop.length_lt
    exact (slip_of_scanOperations h).trans hop.suffix
termination_by cs => cs.length

theorem slipped_of_readOperations (h : readOperations text = .error fault) :
    fault.Slipped text := by
  obtain ⟨slip, hslip, rfl⟩ := mapError_eq_error.mp h
  exact .math (Span.fitsIn_of_suffix (slip_of_scanOperations hslip) (Nat.min_le_right _ _))

/-! ## Expressions -/

theorem slipped_of_readSuffix {before : List Char} (htext : Text.upper text = before ++ rest)
    (h : readSuffix text rest = .error fault) : fault.Slipped text := by
  obtain ⟨inner, hinner, rfl⟩ := mapError_eq_error.mp h
  rw [← Text.byteLength_upper text, Text.byteLength_sub htext]
  refine (slipped_of_readOperations hinner).within before [] ?_
  rw [htext, List.append_nil]

theorem slipped_of_read (h : read text = .error fault) : fault.Slipped text := by
  unfold read at h
  dsimp only at h
  split at h
  · next rest hrest =>
    -- the anchor is `NOW`
    have htext := Text.after?_eq_some_iff.mp hrest
    rcases bind_eq_error.mp h with h | ⟨ops, -, h⟩
    · exact slipped_of_readSuffix htext h
    · cases h
  · split at h
    · cases h
    · next stamp rest hsplit =>
      have htext := eq_append_of_splitAtZone hsplit
      rcases bind_eq_error.mp h with h | ⟨anchor, -, h⟩
      · obtain ⟨inner, hinner, rfl⟩ := mapError_eq_error.mp h
        exact (Timestamp.slipped_of_readCanonical hinner).within [] rest htext
      · rcases bind_eq_error.mp h with h | ⟨ops, -, h⟩
        · exact slipped_of_readSuffix htext h
        · cases h

end Almanac.DateMath
