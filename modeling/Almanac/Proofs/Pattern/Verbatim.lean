import Almanac.Proofs.Calendar.Moment
import Almanac.Proofs.Pattern.Grammar
import Almanac.Proofs.Pattern.Written
import Almanac.Proofs.Text.Numeral
/-!
# Patterns are written part by part

A pattern is written by its template, a text in which literal characters stand unmarked between the
directives.  What should come out is said of the parts alone: a literal character shows itself, and
a run shows the field that its letter and length name (`Part.Shows`).  Numbers are described by how
they are read (`Text.IsNumeral`), so that a field says which number it is and not how its digits are
found.

A part shows one text (`Part.Shows.unique`).  So the pattern writes the texts of its parts, one after
the other, and that is all that it can write.
-/

namespace Almanac.Pattern

open Calendar

variable {m : Moment} {f : Field} {part : Part} {parts : List Part} {items : List Item}
  {text text' : List Char} {pattern : List Char} {p : Pattern}

/-! ## What fields show -/

/-- A year in four digits from 0000 to 9999, and elsewhere in at least four behind its sign. -/
def SpellsYear (y : Int) (text : List Char) : Prop :=
  if 0 ≤ y ∧ y ≤ 9999 then Text.IsNumeral 4 y.toNat text
  else ∃ ds, text = (if y < 0 then '-' else '+') :: ds ∧ Text.IsNumeral 4 y.natAbs ds

/-- A name in full or its first three letters. -/
def SpellsName (long : Bool) (names : List String) (index : Nat) (text : List Char) : Prop :=
  ∃ name, names[index]? = some name ∧ text = if long then name.toList else name.toList.take 3

/-- The text of a field of a moment. -/
def Field.Spells (m : Moment) (text : List Char) : Field → Prop
  | .year => SpellsYear m.date.year text
  | .yearOfCentury => Text.IsNumeral 2 (m.date.year % 100).toNat text
  | .month => Text.IsNumeral 2 m.date.month.toNat text
  | .monthName long => SpellsName long monthNames (m.date.month - 1).toNat text
  | .day => Text.IsNumeral 2 m.date.day.toNat text
  | .weekdayName long => SpellsName long weekdayNames (weekdayOf m.date.toDay) text
  | .hour => Text.IsNumeral 2 m.hour text
  | .clockHour =>
      ∃ hour, 1 ≤ hour ∧ hour ≤ 12 ∧ hour % 12 = m.hour % 12 ∧ Text.IsNumeral 2 hour text
  | .half => text = if m.hour < 12 then ['A', 'M'] else ['P', 'M']
  | .minute => Text.IsNumeral 2 m.minute text
  | .second => Text.IsNumeral 2 m.second text
  | .fraction digits => Text.IsNumeral digits (10 ^ (digits - 3) * m.millis) text
  | .offset colon => text = if colon then "+00:00".toList else "+0000".toList

theorem SpellsYear.unique {y : Int} (h : SpellsYear y text) (h' : SpellsYear y text') :
    text = text' := by
  unfold SpellsYear at h h'
  split at h
  · next hy =>
    rw [if_pos hy] at h'
    exact h.unique h'
  · next hy =>
    rw [if_neg hy] at h'
    obtain ⟨ds, rfl, hds⟩ := h
    obtain ⟨ds', rfl, hds'⟩ := h'
    rw [hds.unique hds']

theorem SpellsName.unique {long : Bool} {names : List String} {index : Nat}
    (h : SpellsName long names index text) (h' : SpellsName long names index text') :
    text = text' := by
  obtain ⟨name, hname, rfl⟩ := h
  obtain ⟨name', hname', rfl⟩ := h'
  rw [Option.some.inj (hname.symm.trans hname')]

theorem Field.Spells.unique (h : f.Spells m text) (h' : f.Spells m text') : text = text' := by
  cases f with
  | year => exact SpellsYear.unique h h'
  | monthName long | weekdayName long => exact SpellsName.unique h h'
  | clockHour =>
      obtain ⟨hour, hlow, hhigh, hmod, h⟩ := h
      obtain ⟨hour', hlow', hhigh', hmod', h'⟩ := h'
      obtain rfl : hour = hour' := by omega
      exact h.unique h'
  | half | offset colon => exact h.trans h'.symm
  | _ => exact Text.IsNumeral.unique h h'

/-! ## What fields write -/

theorem spellsYear_yearText (y : Int) : SpellsYear y (yearText y) := by
  unfold SpellsYear yearText
  split
  · next hy =>
    refine Text.isNumeral_padded ?_
    show y.toNat < 10000
    omega
  · exact ⟨_, rfl, Text.isNumeral_atLeast 4 y.natAbs⟩

theorem isNumeral_twoText {n : Nat} (h : n < 100) : Text.IsNumeral 2 n (twoText n) :=
  Text.isNumeral_padded h

theorem spellsName_nameText {names : List String} {index : Nat} (long : Bool)
    (h : index < names.length) :
    SpellsName long names index (Field.nameText long (Field.nameAt names index)) :=
  ⟨_, List.getElem?_eq_getElem h, by rw [nameAt_eq h, Field.nameText]⟩

theorem Field.spells_text (hm : m.Exists)
    (hf : ∀ digits, f = .fraction digits → digits = 3 ∨ digits = 6 ∨ digits = 9) :
    f.Spells m (f.text m) := by
  have htime := hm.time
  cases f with
  | year => exact spellsYear_yearText m.date.year
  | yearOfCentury => exact isNumeral_twoText (by omega)
  | month =>
      have hmonth := m.date.month_bounds
      exact isNumeral_twoText (by omega)
  | monthName long => exact spellsName_nameText long (month_lt m.date)
  | day =>
      have hday := hm.date.day_bounds
      exact isNumeral_twoText (by omega)
  | weekdayName long => exact spellsName_nameText long (weekdayOf_lt m.date.toDay)
  | hour =>
      have hhour : m.hour < 24 := by
        unfold Moment.hour
        omega
      exact isNumeral_twoText (by omega)
  | clockHour =>
      have hface := onClockFace_eq m.hour
      exact ⟨onClockFace m.hour, hface.1, hface.2.1, hface.2.2, isNumeral_twoText (by omega)⟩
  | half => rfl
  | minute =>
      have hlt : m.minute < 60 := Nat.mod_lt _ (by decide)
      exact isNumeral_twoText (by omega)
  | second =>
      have hlt : m.second < 60 := Nat.mod_lt _ (by decide)
      exact isNumeral_twoText (by omega)
  | fraction digits =>
      refine isNumeral_fraction (Nat.mod_lt _ (by decide)) ?_
      rcases hf digits rfl with rfl | rfl | rfl <;> decide
  | offset colon => cases colon <;> rfl

/-! ## What parts show -/

/-- The text that a part of a pattern stands for. -/
def Part.Shows (m : Moment) : Part → List Char → Prop
  | .literal c, text => text = [c]
  | .run letter count _, text => ∃ f, Names letter count f ∧ f.Spells m text
  | .unclosed _, _ => False

theorem Part.Shows.unique (h : part.Shows m text) (h' : part.Shows m text') : text = text' := by
  cases part with
  | literal c => exact h.trans h'.symm
  | unclosed opened => exact h.elim
  | run letter count rest =>
      obtain ⟨f, hf, h⟩ := h
      obtain ⟨f', hf', h'⟩ := h'
      obtain rfl := Option.some.inj (hf.ofRun?.symm.trans hf'.ofRun?)
      exact h.unique h'

theorem shows_text {item : Item} (hm : m.Exists) (h : part.item = .ok item) :
    part.Shows m (item.text m) := by
  cases part with
  | literal c =>
      cases h
      rfl
  | unclosed opened => cases h
  | run letter count rest =>
      obtain ⟨f, hf, rfl⟩ := item_run_eq_ok.mp h
      refine ⟨f, hf, Field.spells_text hm ?_⟩
      rintro digits rfl
      exact fraction_of_ofRun? hf.ofRun?

theorem shows_iff (hm : m.Exists) (h : parts.mapM Part.item = .ok items) {texts : List (List Char)} :
    List.Forall₂ (Part.Shows m) parts texts ↔ texts = items.map (Item.text m) := by
  have hall : List.Forall₂ (Part.Shows m) parts (items.map (Item.text m)) :=
    List.forall₂_map_right_iff.mpr
      ((mapM_eq_ok_iff.mp h).imp fun _ _ hitem => shows_text hm hitem)
  constructor
  · intro htexts
    have hunique : Relator.RightUnique (Part.Shows m) := fun _ _ _ => Part.Shows.unique
    exact List.right_unique_forall₂' hunique htexts hall
  · rintro rfl
    exact hall

/-! ## Literal characters in templates -/

/-- A part and a piece of a template that are the same literal character, or both are none. -/
def SameLiteral (part : Part) (piece : Template.Piece) : Prop :=
  ∀ c, part = .literal c ↔ piece = .literal c

theorem sameLiteral_piece {item : Item} (h : part.item = .ok item) (use : Use) :
    SameLiteral part (item.piece use) := by
  intro c
  cases part with
  | literal d =>
      cases h
      simp only [Item.piece, Part.literal.injEq, Template.Piece.literal.injEq]
  | unclosed opened => cases h
  | run letter count rest =>
      obtain ⟨f, -, rfl⟩ := item_run_eq_ok.mp h
      refine ⟨nofun, fun h => ?_⟩
      cases f with
      | offset colon => cases use <;> cases h
      | _ => cases h

theorem sameLiteral_template (h : parts.mapM Part.item = .ok items) (use : Use) :
    List.Forall₂ SameLiteral parts (Template.pieces none (template use items)) := by
  rw [pieces_template (fractionsFit_of_parts h)]
  exact List.forall₂_map_right_iff.mpr
    ((mapM_eq_ok_iff.mp h).imp fun _ _ hitem => sameLiteral_piece hitem use)

/-! ## Writing -/

/-- A pattern writes what its parts show, in their order.  A literal character of it is one in its
templates too, wherever it stands, and nothing else is. -/
theorem write_verbatim (h : compile pattern = .ok p) (i : Instant) :
    ∃ parts, (∀ other, Says none pattern other ↔ other = parts) ∧
      (∀ use, List.Forall₂ SameLiteral parts (Template.pieces none (template use p.items))) ∧
      (i.InCalendar → ∃ m : Moment, m.Exists ∧ m.toMillis = i.toInt ∧
        (∃ text, p.write i = .ok text) ∧
          ∀ text, p.write i = .ok text ↔
            ∃ texts, List.Forall₂ (Part.Shows m) parts texts ∧ text = texts.flatten) ∧
      (¬ i.InCalendar → p.write i = .error (.instantOutOfRange i.millis)) := by
  obtain ⟨hitems, -⟩ := items_of_compile h
  have hwrite := write_eq (compile_compiled h) i
  refine ⟨partsFrom none pattern, fun _ => says_iff, sameLiteral_template hitems, ?_, ?_⟩
  · intro hin
    obtain ⟨m, hmoment⟩ := hin.exists_moment
    obtain ⟨hm, hmillis⟩ := Instant.moment?_eq_some_iff.mp hmoment
    have htext : p.write i = .ok (p.text m) := by
      rw [hwrite, hmoment]
      rfl
    refine ⟨m, hm, hmillis, ⟨_, htext⟩, fun text => ?_⟩
    rw [htext]
    constructor
    · intro heq
      obtain rfl := Except.ok.inj heq
      exact ⟨_, (shows_iff hm hitems).mpr rfl, List.flatMap_def⟩
    · rintro ⟨texts, htexts, rfl⟩
      rw [(shows_iff hm hitems).mp htexts, ← List.flatMap_def]
      rfl
  · intro hout
    have hmoment : i.moment? = none := if_neg hout
    rw [hwrite, hmoment]
    rfl

/-- The last millisecond before the year 0000.  The first percent sign is in a section and stands in
front of the letter of a directive, the second one is outside. -/
theorem write_verbatim_percent_signs :
    ∃ p, compile "y '%H'''%é ''yy".toList = .ok p ∧
      p.write ⟨-62167219200001⟩ = .ok "-0001 %H'%é '99".toList := by
  obtain ⟨p, hp⟩ : ∃ p, compile "y '%H'''%é ''yy".toList = .ok p := ⟨_, rfl⟩
  obtain ⟨parts, hunique, -, hwrite, -⟩ := write_verbatim hp ⟨-62167219200001⟩
  obtain ⟨m, hm, hmillis, -, htext⟩ := hwrite (by decide)
  have hmoment : Instant.moment? ⟨-62167219200001⟩ = some ⟨⟨-1, 31⟩, 86399999⟩ := by decide
  obtain rfl := Option.some.inj
    ((Instant.moment?_eq_some_iff.mpr ⟨hm, hmillis⟩).symm.trans hmoment)
  have hparts : .run 'y' 1 "y '%H'''%é ''yy".toList :: " %H'%é '".toList.map Part.literal
      ++ [.run 'y' 2 ['y', 'y']] = parts :=
    (hunique _).mp (says_iff.mpr (by decide))
  subst hparts
  have hyear : SpellsYear (-1) "-0001".toList :=
    ⟨"0001".toList, rfl, Text.isNumeral_padded (by decide : 1 < powerOfTen 4)⟩
  have hcentury : Text.IsNumeral 2 99 ['9', '9'] := isNumeral_twoText (by decide)
  have htexts : List.Forall₂ (Part.Shows ⟨⟨-1, 31⟩, 86399999⟩)
      (.run 'y' 1 "y '%H'''%é ''yy".toList :: " %H'%é '".toList.map Part.literal
        ++ [.run 'y' 2 ['y', 'y']])
      ("-0001".toList :: " %H'%é '".toList.map ([·]) ++ [['9', '9']]) := by
    refine .cons ⟨.year, .year (Or.inl rfl) (by decide), hyear⟩ ?_
    iterate 8 refine .cons rfl ?_
    exact .cons ⟨.yearOfCentury, .yearOfCentury (Or.inl rfl), hcentury⟩ .nil
  exact ⟨p, hp, (htext _).mpr ⟨_, htexts, by decide⟩⟩

end Almanac.Pattern
