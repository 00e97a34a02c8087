import Almanac.Proofs.Pattern.Items
/-!
# Templates say what the items say

The template of a pattern is one text, in which nothing tells literal characters from directives but
the percent signs.  Reading it gives one piece for each item all the same (`pieces_template`): a
literal percent sign is doubled, so every other one begins a code, and a code ends where it becomes
one.  Hence no template of compiled items has an unknown directive in it, and the pattern writes item
by item (`write_eq`).

For reading, the pieces are run together to segments like the items.  They are not the same segments,
as the template no longer says how an offset is written.  But an offset is read in any of its forms,
and so the same is read (`readSegments_template`).

Fractions are why the items must be compiled ones.  There is a code for three, six and nine digits
and for no other number.
-/

namespace Almanac.Pattern

variable {items : List Item} {use : Use} {rest : List Char}

/-- The piece of a template that an item becomes. -/
def Item.piece (use : Use) : Item → Template.Piece
  | .literal c => .literal c
  | .field (.offset colon) =>
      match use with
      | .reading => .anyOffset
      | .writing => .field (.offset colon)
  | .field f => .field f

/-- The code of a field ends by itself, whatever comes after it. -/
theorem pieces_code {f : Field}
    (hf : ∀ digits, f = .fraction digits → digits = 3 ∨ digits = 6 ∨ digits = 9) :
    Template.pieces (some []) (f.code use ++ rest)
      = (Item.field f).piece use :: Template.pieces none rest := by
  cases f with
  | monthName long => cases long <;> rfl
  | weekdayName long => cases long <;> rfl
  | fraction digits =>
      rcases hf digits rfl with rfl | rfl | rfl <;> rfl
  | offset colon =>
      cases use with
      | reading => rfl
      | writing => cases colon <;> rfl
  | _ => rfl

/-- A literal character stands for itself, a percent sign too. -/
theorem pieces_literal (c : Char) :
    Template.pieces none (Item.inTemplate use (.literal c) ++ rest)
      = .literal c :: Template.pieces none rest := by
  by_cases hc : c = '%'
  · subst hc
    rfl
  · simp only [Item.inTemplate, if_neg hc, List.cons_append, List.nil_append, Template.pieces]

theorem pieces_template (h : FractionsFit items) (use : Use) :
    Template.pieces none (template use items) = items.map (Item.piece use) := by
  induction items with
  | nil => rfl
  | cons item items ih =>
      have hrest := ih fun digits hmem => h digits (List.mem_cons_of_mem item hmem)
      show Template.pieces none (item.inTemplate use ++ template use items) = _
      rw [List.map_cons, ← hrest]
      cases item with
      | literal c => exact pieces_literal c
      | field f =>
          refine pieces_code ?_
          rintro digits rfl
          exact h digits List.mem_cons_self

/-! ## Nothing is unknown -/

theorem piece_ne_unknown (use : Use) (item : Item) : item.piece use ≠ .unknown := by
  cases item with
  | literal c => nofun
  | field f =>
      cases f with
      | offset colon => cases use <;> nofun
      | _ => nofun

theorem unknown_not_mem_template (h : FractionsFit items) (use : Use) :
    .unknown ∉ Template.pieces none (template use items) := by
  rw [pieces_template h, List.mem_map]
  rintro ⟨item, -, hitem⟩
  exact piece_ne_unknown use item hitem

theorem isExpressible_of_fractionsFit (h : FractionsFit items) : isExpressible items = true := by
  unfold isExpressible Template.isKnown
  rw [decide_eq_true (unknown_not_mem_template h .reading),
    decide_eq_true (unknown_not_mem_template h .writing)]
  rfl

/-! ## What is written -/

theorem text?_piece (m : Calendar.Moment) (item : Item) :
    (item.piece .writing).text? m = some (item.text m) := by
  cases item with
  | literal c => rfl
  | field f => cases f <;> rfl

theorem text?_template (m : Calendar.Moment) (h : FractionsFit items) :
    Template.text? m (template .writing items) = some (items.flatMap (Item.text m)) := by
  have hpieces : Template.Piece.text? m ∘ Item.piece .writing = fun item => some (item.text m) :=
    funext (text?_piece m)
  rw [Template.text?, pieces_template h, List.mapM_map, hpieces, List.flatMap_def]
  exact congrArg (Option.map List.flatten) List.mapM_pure

/-- A compiled pattern writes its items, one after the other. -/
theorem write_eq {p : Pattern} (hp : p.Compiled) (i : Instant) :
    p.write i = i.require (i.moment?.map p.text) := by
  rw [write]
  cases i.moment? with
  | none => rfl
  | some m =>
      rw [Option.bind_some, text?_template m hp.fraction]
      rfl

/-! ## What is read -/

/-- The item that a piece is read as. -/
def Template.Piece.item? : Template.Piece → Option Item
  | .literal c => some (.literal c)
  | .field f => some (.field f)
  | .anyOffset => some (.field (.offset false))
  | .unknown => none

/-- The segments that a text is read by with a template, if every piece can be read. -/
def Template.segments? (template : List Char) : Option (List Segment) :=
  ((Template.pieces none template).mapM Template.Piece.item?).map segments

/-- An item without what matters in writing only. -/
def Item.toRead : Item → Item
  | .field (.offset _) => .field (.offset false)
  | item => item

def Segment.toRead : Segment → Segment
  | .field (.offset _) => .field (.offset false)
  | s => s

theorem item?_piece (item : Item) : (item.piece .reading).item? = some item.toRead := by
  cases item with
  | literal c => rfl
  | field f => cases f <;> rfl

theorem segments?_template (h : FractionsFit items) :
    Template.segments? (template .reading items) = some (segments (items.map Item.toRead)) := by
  have hpieces : Template.Piece.item? ∘ Item.piece .reading = fun item => some item.toRead :=
    funext item?_piece
  rw [Template.segments?, pieces_template h, List.mapM_map, hpieces]
  exact congrArg (Option.map segments) List.mapM_pure

/-- A literal character joins the same run, however the offset is written that follows it. -/
theorem addItem_toRead (item : Item) (segs : List Segment) :
    addItem item.toRead (segs.map Segment.toRead) = (addItem item segs).map Segment.toRead := by
  cases item with
  | field k => cases k <;> rfl
  | literal c =>
      simp only [Item.toRead, addItem]
      by_cases hblank : Text.isBlank c = true
      · rw [if_pos hblank, if_pos hblank]
        cases segs with
        | nil => rfl
        | cons s segs =>
            cases s with
            | field k => cases k <;> rfl
            | _ => rfl
      · rw [if_neg hblank, if_neg hblank]
        by_cases hpercent : [c] = percent
        · rw [if_pos hpercent, if_pos hpercent]
          rfl
        · rw [if_neg hpercent, if_neg hpercent]
          cases segs with
          | nil => rfl
          | cons s segs =>
              cases s with
              | field k => cases k <;> rfl
              | blanks => rfl
              | literal text =>
                  simp only [List.map_cons, Segment.toRead]
                  split <;> rfl

theorem segments_toRead (items : List Item) :
    segments (items.map Item.toRead) = (segments items).map Segment.toRead := by
  induction items with
  | nil => rfl
  | cons item items ih =>
      show addItem item.toRead (segments (items.map Item.toRead)) = _
      rw [ih]
      exact addItem_toRead item (segments items)

theorem read_toRead (f : Findings) (s : Segment) (cs : List Char) :
    s.toRead.read f cs = s.read f cs := by
  cases s with
  | field k => cases k <;> rfl
  | _ => rfl

theorem readSegments_toRead (f : Findings) (segs : List Segment) (cs : List Char) :
    readSegments f (segs.map Segment.toRead) cs = readSegments f segs cs := by
  induction segs generalizing f cs with
  | nil => rfl
  | cons s segs ih =>
      rw [List.map_cons, readSegments, readSegments, read_toRead]
      simp only [ih]

/-- With the template for reading, a text is read as it is by the items. -/
theorem readSegments_template (h : FractionsFit items) :
    ∃ segs, Template.segments? (template .reading items) = some segs ∧
      ∀ f cs, readSegments f segs cs = readSegments f (segments items) cs := by
  refine ⟨_, segments?_template h, fun f cs => ?_⟩
  rw [segments_toRead, readSegments_toRead]

end Almanac.Pattern
