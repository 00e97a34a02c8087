import Mathlib.Data.List.DropRight
import Mathlib.Data.Prod.Lex
import Almanac.Proofs.Fault.Place
/-!
# Lines and columns as an order

A program says by a number of bytes where in a text it is, and a person by line and column.  The two
agree: `Position.ofPos` takes the boundaries between characters, as they come in the text, to
positions as they are read (`ofPos_lt_ofPos_iff`).

What carries this is one character.  It moves every position on, a line end to the next line and any
other to the next column, however many bytes it has (`lt_advance`).  So does a run of characters
(`lt_foldl_advance`), and one such run is between a boundary and a later one.
-/

namespace Almanac.Position

/-! ## The order of reading -/

/-- Positions are read line by line, and each line column by column. -/
def readingKey (p : Position) : ℕ ×ₗ ℕ := toLex (p.line, p.column)

theorem readingKey_injective : Function.Injective readingKey := by
  intro p q h
  cases p
  cases q
  obtain ⟨rfl, rfl⟩ := Prod.mk.inj (toLex_inj.mp h)
  rfl

instance : LinearOrder Position := LinearOrder.lift' readingKey readingKey_injective

theorem lt_iff {p q : Position} :
    p < q ↔ p.line < q.line ∨ p.line = q.line ∧ p.column < q.column :=
  Prod.Lex.toLex_lt_toLex

theorem lt_advance (p : Position) (c : Char) : p < p.advance c := by
  rw [lt_iff, advance]
  split
  · exact .inl (Nat.lt_succ_self p.line)
  · exact .inr ⟨rfl, Nat.lt_succ_self p.column⟩

theorem le_foldl_advance (p : Position) (cs : List Char) : p ≤ cs.foldl advance p := by
  induction cs generalizing p with
  | nil => exact le_refl p
  | cons c cs ih => exact (lt_advance p c).le.trans (ih (p.advance c))

theorem lt_foldl_advance (p : Position) {cs : List Char} (h : cs ≠ []) :
    p < cs.foldl advance p := by
  obtain ⟨c, cs, rfl⟩ := List.exists_cons_of_ne_nil h
  exact (lt_advance p c).trans_le (le_foldl_advance (p.advance c) cs)

/-! ## Boundaries between characters -/

variable {text before after : String} {p q : text.Pos}

/-- The position of a boundary between characters, or of an end of the text. -/
def ofPos (p : text.Pos) : Position := ofOffset text p.offset.byteIdx

theorem ofPos_eq_foldl (h : p.Splits before after) :
    ofPos p = before.toList.foldl advance ⟨1, 1⟩ := by
  have htext : text.toList = before.toList ++ after.toList := by
    rw [h.eq_append, String.toList_append]
  rw [ofPos, h.offset_eq_rawEndPos, String.byteIdx_rawEndPos, Text.utf8ByteSize_eq,
    ofOffset_byteLength htext]

theorem ofPos_eq (h : p.Splits before after) :
    ofPos p = ⟨before.toList.count '\n' + 1,
      (before.toList.rtakeWhile (· ≠ '\n')).length + 1⟩ := by
  rw [ofPos_eq_foldl h, foldl_advance, List.rtakeWhile, List.length_reverse]

theorem ofPos_lt_ofPos (h : p < q) : ofPos p < ofPos q := by
  obtain ⟨between, hne, hbefore, -⟩ := (p.splits.lt_iff_exists_eq_append q.splits).mp h
  have hrun : between.toList ≠ [] := fun hnil => hne (String.toList_eq_nil_iff.mp hnil)
  -- `q` is reached from where `p` is, over the characters between them
  rw [ofPos_eq_foldl p.splits, ofPos_eq_foldl q.splits, hbefore, String.toList_append,
    List.foldl_append]
  exact lt_foldl_advance _ hrun

theorem ofPos_lt_ofPos_iff : ofPos p < ofPos q ↔ p < q := by
  refine ⟨fun h => ?_, ofPos_lt_ofPos⟩
  obtain hlt | rfl | hgt := Std.lt_trichotomy p q
  · exact hlt
  · exact absurd h (lt_irrefl _)
  · exact absurd h (ofPos_lt_ofPos hgt).asymm

theorem ofPos_injective : Function.Injective (ofPos : text.Pos → Position) := by
  intro p q h
  obtain hlt | rfl | hgt := Std.lt_trichotomy p q
  · exact absurd h (ofPos_lt_ofPos hlt).ne
  · rfl
  · exact absurd h (ofPos_lt_ofPos hgt).ne'

theorem ofOffset_past_end {offset : ℕ} (h : text.utf8ByteSize ≤ offset) :
    ofOffset text offset = ofPos text.endPos := by
  rw [Text.utf8ByteSize_eq] at h
  rw [ofPos_eq_foldl (String.splits_endPos text), ofOffset, over_of_byteLength_le _ h]

/-- Line and column of a boundary count, each from one, the line ends in front of it and the
characters since the last of these or, without one, since the start.  Boundaries and their positions
come in one order, so no two boundaries of a text have the same line and column.  All that is past
the end of the text has the position of the end. -/
theorem identifies_boundary (text : String) :
    (∀ (p : text.Pos) (before after : String), p.Splits before after →
      ofPos p = ⟨before.toList.count '\n' + 1,
        (before.toList.rtakeWhile (· ≠ '\n')).length + 1⟩) ∧
    (∀ p q : text.Pos, ofPos p < ofPos q ↔ p < q) ∧
    Function.Injective (ofPos : text.Pos → Position) ∧
    ∀ offset, text.utf8ByteSize ≤ offset → ofOffset text offset = ofPos text.endPos := by
  refine ⟨?_, ?_, ofPos_injective, ?_⟩
  · intro p before after hsplit
    exact ofPos_eq hsplit
  · intro p q
    exact ofPos_lt_ofPos_iff
  · intro offset hpast
    exact ofOffset_past_end hpast

/-- Two boundaries with the same column, in different lines. -/
theorem identifies_boundary_two_lines :
    ∃ p q : "é\nab".Pos, p.Splits "é" "\nab" ∧ ofPos p = ⟨1, 2⟩ ∧
      q.Splits "é\na" "b" ∧ ofPos q = ⟨2, 2⟩ ∧ p < q ∧
      "é\nab".utf8ByteSize ≤ 9 ∧ ofOffset "é\nab" 9 = ⟨2, 3⟩ := by
  obtain ⟨hcounts, horder, -, hend⟩ := identifies_boundary "é\nab"
  have hp : (String.Pos.ofEqAppend (show "é\nab" = "é" ++ "\nab" from rfl)).Splits "é" "\nab" :=
    String.Pos.splits_ofEqAppend _
  have hq : (String.Pos.ofEqAppend (show "é\nab" = "é\na" ++ "b" from rfl)).Splits "é\na" "b" :=
    String.Pos.splits_ofEqAppend _
  have hfirst := (hcounts _ _ _ hp).trans (show _ = ⟨1, 2⟩ by decide)
  have hsecond := (hcounts _ _ _ hq).trans (show _ = ⟨2, 2⟩ by decide)
  have hlast := (hcounts _ _ _ (String.splits_endPos _)).trans (show _ = ⟨2, 3⟩ by decide)
  have hpast : "é\nab".utf8ByteSize ≤ 9 := by decide
  refine ⟨_, _, hp, hfirst, hq, hsecond, (horder _ _).mp ?_, hpast, (hend 9 hpast).trans hlast⟩
  rw [hfirst, hsecond, lt_iff]
  exact .inl (by decide)

end Almanac.Position
