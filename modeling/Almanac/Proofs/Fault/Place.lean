import Mathlib.Data.List.Induction
import Almanac.Fault
import Almanac.Proofs.Text.Case
/-!
# Places in a text

A fault shows where a text is to blame, by line and column for a person and by bytes for a program.
`Fault.PointsInto` says what makes that place a place: the fault is about the whole text, the place
begins between two of its characters, it does not go on past the end, and line and column are those
of the byte that it begins at.  Only a calculation that leaves the range has no place.

Readers do not see the whole text.  They work on a part of it, with its letters in upper case, and
their faults are moved to the whole text afterwards.  So they are followed by the SPAN and not by
the location: `Span.FitsIn` speaks of characters in front of the span, which a longer text only adds
to (`FitsIn.shifted`) and upper case does not move (`FitsIn.of_upper`).
-/

namespace Almanac

/-! ## Bytes of characters -/

namespace Text

variable {cs before rest : List Char}

theorem utf8ByteSize_ofList (cs : List Char) : (String.ofList cs).utf8ByteSize = byteLength cs := by
  induction cs with
  | nil => rfl
  | cons c cs ih =>
      rw [String.ofList_cons, String.utf8ByteSize_append, String.utf8ByteSize_singleton, ih,
        byteLength]

theorem utf8ByteSize_eq (text : String) : text.utf8ByteSize = byteLength text.toList := by
  rw [← utf8ByteSize_ofList, String.ofList_toList]

theorem byteLength_sub (h : cs = before ++ rest) :
    byteLength cs - byteLength rest = byteLength before := by
  rw [h, byteLength_append, Nat.add_sub_cancel]

theorem utf8Size_eq_one {c : Char} (h : c.toNat ≤ 127) : c.utf8Size = 1 :=
  Char.utf8Size_eq_one_iff.mpr (UInt32.le_iff_toNat_le.mpr h)

theorem utf8Size_toUpper (c : Char) : c.toUpper.utf8Size = c.utf8Size := by
  by_cases h : 97 ≤ c.toNat ∧ c.toNat ≤ 122
  · have hupper := toNat_toUpper c
    rw [if_pos h] at hupper
    have hsmall : c.utf8Size = 1 := utf8Size_eq_one (by omega)
    rw [hsmall, utf8Size_eq_one (by omega)]
  · rw [Char.toNat_inj.mp ((toNat_toUpper c).trans (if_neg h))]

theorem byteLength_upper (cs : List Char) : byteLength (upper cs) = byteLength cs := by
  induction cs with
  | nil => rfl
  | cons c cs ih =>
      show c.toUpper.utf8Size + byteLength (upper cs) = _
      rw [ih, utf8Size_toUpper, byteLength]

end Text

/-! ## Spans -/

namespace Span

open Text

/-- The span begins between two characters of the text, or at an end of it, and ends in it. -/
def FitsIn (s : Span) (text : List Char) : Prop :=
  s.stop ≤ byteLength text ∧ ∃ before, before <+: text ∧ s.start = byteLength before

variable {s : Span} {text part rest : List Char}

theorem fitsIn_of_suffix {stop : Nat} (h : rest <:+ text) (hstop : stop ≤ byteLength text) :
    FitsIn ⟨byteLength text - byteLength rest, stop⟩ text := by
  obtain ⟨before, rfl⟩ := h
  exact ⟨hstop, before, List.prefix_append before rest, byteLength_sub rfl⟩

theorem fitsIn_whole (text : List Char) : FitsIn ⟨0, byteLength text⟩ text :=
  ⟨Nat.le_refl _, [], List.nil_prefix, rfl⟩

/-- A span of a part is moved by what is in front of the part. -/
theorem FitsIn.shifted (h : s.FitsIn part) (before after : List Char) :
    (s.shifted (byteLength before)).FitsIn (before ++ part ++ after) := by
  obtain ⟨hstop, front, ⟨back, rfl⟩, hstart⟩ := h
  simp only [FitsIn, Span.shifted, byteLength_append] at hstop ⊢
  refine ⟨by omega, before ++ front, ⟨back ++ after, ?_⟩, ?_⟩
  · simp only [List.append_assoc]
  · rw [byteLength_append]
    omega

theorem FitsIn.of_upper (h : s.FitsIn (upper text)) : s.FitsIn text := by
  obtain ⟨hstop, before, ⟨after, hsplit⟩, hstart⟩ := h
  obtain ⟨front, back, rfl, rfl, -⟩ := List.map_eq_append_iff.mp hsplit.symm
  rw [byteLength_upper] at hstop
  exact ⟨hstop, front, List.prefix_append front back, hstart.trans (byteLength_upper front)⟩

end Span

/-! ## Lines and columns -/

namespace Position

variable {before after : List Char}

theorem over_zero (p : Position) (cs : List Char) : p.over 0 cs = p := by
  cases cs <;> rfl

theorem over_nil (p : Position) (bytes : Nat) : p.over bytes [] = p := by
  cases bytes <;> rfl

/-- The characters in front use up their own bytes. -/
theorem over_append (p : Position) (bytes : Nat) :
    p.over (Text.byteLength before + bytes) (before ++ after) =
      (before.foldl advance p).over bytes after := by
  induction before generalizing p with
  | nil =>
      rw [Text.byteLength, Nat.zero_add]
      rfl
  | cons c before ih =>
      obtain ⟨size, hsize⟩ := Nat.exists_eq_add_one.mpr c.utf8Size_pos
      have hbytes : Text.byteLength (c :: before) + bytes =
          size + (Text.byteLength before + bytes) + 1 := by
        rw [Text.byteLength, hsize]
        omega
      rw [hbytes, List.cons_append, Position.over, hsize, Nat.add_sub_add_right,
        Nat.add_sub_cancel_left, ih, List.foldl_cons]

theorem over_byteLength (p : Position) :
    p.over (Text.byteLength before) (before ++ after) = before.foldl advance p := by
  rw [← Nat.add_zero (Text.byteLength before), over_append, over_zero]

theorem over_of_byteLength_le (p : Position) {bytes : Nat} (h : Text.byteLength before ≤ bytes) :
    p.over bytes before = before.foldl advance p := by
  obtain ⟨more, rfl⟩ := Nat.exists_eq_add_of_le h
  calc p.over (Text.byteLength before + more) before
      = p.over (Text.byteLength before + more) (before ++ []) := by rw [List.append_nil]
    _ = before.foldl advance p := by rw [over_append, over_nil]

theorem ofOffset_byteLength {text : String} (h : text.toList = before ++ after) :
    ofOffset text (Text.byteLength before) = before.foldl advance ⟨1, 1⟩ := by
  rw [ofOffset, h, over_byteLength]

/-- The line is one more than the line ends so far, and the column one more than the characters
since the last of them. -/
theorem foldl_advance (before : List Char) :
    before.foldl advance ⟨1, 1⟩ =
      ⟨before.count '\n' + 1, (before.reverse.takeWhile (· ≠ '\n')).length + 1⟩ := by
  induction before using List.reverseRecOn with
  | nil => rfl
  | append_singleton before c ih =>
      rw [List.foldl_append, ih, List.foldl_cons, List.foldl_nil, advance, List.count_append,
        List.reverse_append, List.reverse_singleton, List.singleton_append]
      by_cases hc : c = '\n'
      · subst hc
        rw [if_pos rfl, List.takeWhile_cons_of_neg (by decide)]
        rfl
      · have hcount : [c].count '\n' = 0 := List.count_eq_zero.mpr (by simpa using Ne.symm hc)
        rw [if_neg hc, hcount, List.takeWhile_cons_of_pos (by simpa using hc)]
        rfl

end Position

/-! ## Locations -/

namespace Location

/-- The location is a place in the text. -/
structure LiesIn (l : Location) (text : String) : Prop where
  boundary : String.Pos.Raw.IsValid text ⟨l.offset⟩
  inside : l.offset + l.length ≤ text.utf8ByteSize
  /-- Line and column count the characters in front of the place. -/
  position : ∀ before after, text.toList = before ++ after → Text.byteLength before = l.offset →
    l.line = before.count '\n' + 1 ∧
      l.column = (before.reverse.takeWhile (· ≠ '\n')).length + 1

theorem liesIn_ofSpan {s : Span} {text : List Char} (h : s.FitsIn text) :
    (ofSpan s (String.ofList text)).LiesIn (String.ofList text) := by
  obtain ⟨hstop, before, ⟨after, rfl⟩, hstart⟩ := h
  refine ⟨?_, ?_, ?_⟩
  · refine String.Pos.Raw.isValid_iff_exists_append.mpr
      ⟨String.ofList before, String.ofList after, String.ofList_append, ?_⟩
    exact String.Pos.Raw.ext (hstart.trans (Text.utf8ByteSize_ofList before).symm)
  · rw [Text.utf8ByteSize_ofList]
    rw [Text.byteLength_append] at hstop ⊢
    show s.start + (s.stop - s.start) ≤ _
    omega
  · intro front back htext hfront
    have hposition : Position.ofOffset (String.ofList (before ++ after)) s.start =
        front.foldl Position.advance ⟨1, 1⟩ := by
      rw [show s.start = _ from hfront.symm, Position.ofOffset_byteLength htext]
    rw [Position.foldl_advance] at hposition
    exact Position.mk.inj hposition

end Location

/-! ## Faults -/

namespace Fault

/-- A calculation has left the range, or the value of a text fails for that. -/
inductive OutOfRange : Fault → Prop
  | calculation {millis : Int64} : OutOfRange (.instantOutOfRange millis)
  | value {text format scale : String} {cause : Fault} :
      OutOfRange cause → OutOfRange (.unresolved text format scale (some cause))

/-- The fault is about the whole text and its place lies in it, or it has no place for want of
range. -/
structure PointsInto (fault : Fault) (text : String) : Prop where
  place : ∀ l, fault.location? = some l → fault.text? = some text ∧ l.LiesIn text
  unplaced : fault.location? = none → fault.OutOfRange

variable {text : List Char} {fault : Fault}

theorem OutOfRange.pointsInto (h : fault.OutOfRange) (text : String) : fault.PointsInto text := by
  have hnone : fault.location? = none := by
    induction h with
    | calculation => rfl
    | value _ ih => exact ih
  refine ⟨fun l hl => ?_, fun _ => h⟩
  rw [hnone] at hl
  cases hl

/-- A value that no stage resolves points where its cause does, and both are about one text. -/
theorem PointsInto.unresolved {text : String} (h : fault.PointsInto text) (format scale : String) :
    PointsInto (.unresolved text format scale (some fault)) text where
  place l hl := ⟨rfl, (h.place l hl).2⟩
  unplaced hnone := .value (h.unplaced hnone)

/-- What compilers of patterns and of display formats make of a mistake in a text. -/
inductive Miswritten (text : List Char) : Fault → Prop
  | pattern {span : Span} {message : String} :
      span.FitsIn text → Miswritten text (.badPattern (String.ofList text) span message)

theorem Miswritten.pointsInto (h : Miswritten text fault) :
    fault.PointsInto (String.ofList text) := by
  cases h with
  | pattern h =>
      refine ⟨fun l hl => ?_, nofun⟩
      obtain rfl := Option.some.inj hl
      exact ⟨rfl, Location.liesIn_ofSpan h⟩

/-- What readers of timestamps and of date math make of a mistake in a text. -/
inductive Slipped (text : List Char) : Fault → Prop
  | timestamp {span : Span} {message : String} :
      span.FitsIn text → Slipped text (.malformedTimestamp (String.ofList text) span message)
  | math {span : Span} {message : String} :
      span.FitsIn text → Slipped text (.malformedMath (String.ofList text) span message)
  | outOfRange {millis : Int64} : Slipped text (.instantOutOfRange millis)

theorem Slipped.pointsInto (h : Slipped text fault) : fault.PointsInto (String.ofList text) := by
  cases h with
  | timestamp h =>
      refine ⟨fun l hl => ?_, nofun⟩
      obtain rfl := Option.some.inj hl
      exact ⟨rfl, Location.liesIn_ofSpan h⟩
  | math h =>
      refine ⟨fun l hl => ?_, nofun⟩
      obtain rfl := Option.some.inj hl
      exact ⟨rfl, Location.liesIn_ofSpan h⟩
  | outOfRange => exact OutOfRange.calculation.pointsInto _

/-- A mistake in a part of a text, found in upper case, is a mistake in the text. -/
theorem Slipped.within {part : List Char} (h : Slipped part fault) (before after : List Char)
    (htext : Text.upper text = before ++ part ++ after) :
    Slipped text (fault.within (String.ofList text) (Text.byteLength before)) := by
  cases h with
  | timestamp h => exact .timestamp (Span.FitsIn.of_upper (htext ▸ h.shifted before after))
  | math h => exact .math (Span.FitsIn.of_upper (htext ▸ h.shifted before after))
  | outOfRange => exact .outOfRange

end Fault

end Almanac
