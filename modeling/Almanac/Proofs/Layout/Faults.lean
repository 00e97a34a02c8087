import Almanac.Layout
import Almanac.Proofs.Pattern.Faults
import Almanac.Proofs.Text.Run
import Almanac.Proofs.Timestamp.Faults
/-!
# Where a display format is refused

The pieces of a format, each with two bars in front of it but the first, are the whole of the format
(`pieces_append`), and a piece is a name between blanks.  So the compiler counts the bytes in front
of each name, and moves a mistake in it by as many (`miswritten_of_compile`).

A text that no alternative reads is refused in the words of the first one, which has read all of it.
-/

namespace Almanac.Layout

variable {spec : String} {front back piece cs text : List Char} {fault : Fault}

/-- Pieces with two bars in front of each. -/
def barred (pieces : List (List Char)) : List Char := pieces.flatMap fun p => '|' :: '|' :: p

theorem pieces_append (cs : List Char) : (pieces cs).1 ++ barred (pieces cs).2 = cs := by
  induction cs using pieces.induct with
  | case1 => rfl
  | case2 cs ih =>
      rw [pieces]
      show '|' :: '|' :: ((pieces cs).1 ++ barred (pieces cs).2) = _
      rw [ih]
  | case3 c cs hbars ih =>
      rw [pieces]
      · show c :: ((pieces cs).1 ++ barred (pieces cs).2) = _
        rw [ih]
      · exact hbars

/-! ## Compiling -/

theorem miswritten_of_fitsIn {span : Span} {message : String} (h : span.FitsIn spec.toList) :
    Fault.Miswritten spec.toList (.badPattern spec span message) := by
  have hspec : Fault.Miswritten spec.toList (.badPattern (String.ofList spec.toList) span message) :=
    .pattern h
  rwa [String.ofList_toList] at hspec

theorem miswritten_of_part {part : List Char} (h : fault.Miswritten part)
    (hspec : spec.toList = front ++ part ++ back) :
    (placeFault spec (Text.byteLength front) fault).Miswritten spec.toList := by
  cases h with
  | pattern h => exact miswritten_of_fitsIn (hspec ▸ h.shifted front back)

theorem miswritten_of_compilePiece (hspec : spec.toList = front ++ piece ++ back)
    (h : compilePiece spec (Text.byteLength front) piece = .error fault) :
    fault.Miswritten spec.toList := by
  obtain ⟨before, after, -, -, hbefore, hafter⟩ := Text.exists_blanks piece
  simp only [compilePiece] at h
  rw [Text.byteLength_sub hbefore, ← Text.byteLength_append] at h
  have hpiece : piece = before ++ (Text.trim piece ++ after) := hbefore.trans (by rw [hafter])
  have hname : spec.toList = (front ++ before) ++ (Text.trim piece ++ (after ++ back)) := by
    rw [hspec]
    conv => lhs; rw [hpiece]
    simp only [List.append_assoc]
  split at h
  · -- there is nothing but blanks
    cases h
    refine miswritten_of_fitsIn ⟨?_, front ++ before, ?_, rfl⟩
    · rw [hname, Text.byteLength_append (front ++ before)]
      exact Nat.le_add_right _ _
    · rw [hname]
      exact List.prefix_append _ _
  · split at h
    · cases h
    · obtain ⟨inner, hinner, rfl⟩ := mapError_eq_error.mp h
      rw [← List.append_assoc] at hname
      exact miswritten_of_part (Pattern.miswritten_of_compile (map_eq_error.mp hinner)) hname

theorem miswritten_of_compilePieces : ∀ {pieces : List (List Char)} {front : List Char},
    spec.toList = front ++ barred pieces →
      compilePieces spec (Text.byteLength front + 2) pieces = .error fault →
        fault.Miswritten spec.toList
  | [], _, _, h => nomatch h
  | piece :: pieces, front, hspec, h => by
      have hbars : Text.byteLength front + 2 = Text.byteLength (front ++ ['|', '|']) := by
        rw [Text.byteLength_append]
        rfl
      have hpiece : spec.toList = (front ++ ['|', '|']) ++ piece ++ barred pieces := by
        rw [hspec, barred, List.flatMap_cons, List.append_assoc, List.append_assoc]
        rfl
      rcases bind_eq_error.mp h with h | ⟨first, -, h⟩
      · rw [hbars] at h
        exact miswritten_of_compilePiece hpiece h
      · rcases bind_eq_error.mp h with h | ⟨others, -, h⟩
        · rw [hbars, ← Text.byteLength_append] at h
          exact miswritten_of_compilePieces hpiece h
        · cases h

theorem miswritten_of_compile (h : compile spec = .error fault) :
    fault.Miswritten spec.toList := by
  have hspec : spec.toList = [] ++ (pieces spec.toList).1 ++ barred (pieces spec.toList).2 :=
    (pieces_append spec.toList).symm
  rcases bind_eq_error.mp h with h | ⟨first, -, h⟩
  · exact miswritten_of_compilePiece hspec h
  · rcases bind_eq_error.mp h with h | ⟨others, -, h⟩
    · exact miswritten_of_compilePieces hspec h
    · cases h

/-! ## Reading -/

theorem slipped_of_alternative {a : Alternative} (h : a.read text = .error fault) :
    fault.Slipped text := by
  cases a with
  | dateOptionalTime => exact Timestamp.slipped_of_readOptionalTime h
  | pattern p => exact Pattern.slipped_of_read h

theorem readFirst_eq_error {first : Fault} : ∀ {alternatives : List Alternative},
    readFirst text first alternatives = .error fault → fault = first
  | [], h => by
      cases h
      rfl
  | a :: alternatives, h => by
      rw [readFirst] at h
      split at h
      · cases h
      · exact readFirst_eq_error h

theorem slipped_of_read {l : Layout} (h : l.read text = .error fault) : fault.Slipped text := by
  unfold read at h
  split at h
  · cases h
  · next first hfirst =>
    rw [readFirst_eq_error h]
    exact slipped_of_alternative hfirst

end Almanac.Layout
