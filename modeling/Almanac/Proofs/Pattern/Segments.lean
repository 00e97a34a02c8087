import Almanac.Proofs.Pattern.Written
/-!
# Texts that are written are read back

Field by field that is `read_text`.  Between the fields stands literal text, and the pattern is read
in segments in which it is run together: a run of blanks reads every blank that is there, and any
other run reads itself.  The induction is on the items, with one character added in front at a time
(`readSegments_addLiteral`); at its end stands `readSegments_text`, that exactly the fields of the
pattern are found.
-/

namespace Almanac.Pattern

open Calendar

variable {m : Moment} {items done : List Item} {rest : List Char}

/-! ## Blanks in front

A run of blanks in the pattern takes every blank that the text has there.  None of them belongs to
what follows, for no field is written with a blank in front. -/

theorem trimStart_append : ∀ {cs : List Char}, cs ≠ [] → Text.trimStart cs = cs →
    Text.trimStart (cs ++ rest) = cs ++ rest
  | [], hne, _ => absurd rfl hne
  | c :: cs, _, h => by
      cases hc : Text.isBlank c with
      | true =>
          have hlength := (List.dropWhile_sublist Text.isBlank (l := cs)).length_le
          rw [Text.trimStart_of_isBlank hc] at h
          have := congrArg List.length h
          rw [List.length_cons] at this
          unfold Text.trimStart at this
          omega
      | false => exact Text.trimStart_of_not_isBlank hc

theorem trimStart_names : ∀ names ∈ [Field.monthNames, Field.weekdayNames], ∀ name ∈ names,
    ∀ long, Field.nameText long name ≠ [] ∧
      Text.trimStart (Field.nameText long name) = Field.nameText long name := by
  decide +kernel

theorem trimStart_text (hm : Writable m) (k : Field) :
    Text.trimStart (k.text m ++ rest) = k.text m ++ rest := by
  have htwo : ∀ n, Text.trimStart (twoText n ++ rest) = twoText n ++ rest :=
    fun n => Text.trimStart_digits (Text.padded_ne_nil 1 n) fun c => Text.isDigit_of_mem_padded
  cases k with
  | year =>
      show Text.trimStart (yearText m.date.year ++ rest) = yearText m.date.year ++ rest
      unfold yearText
      rw [if_pos hm.year]
      exact Text.trimStart_digits (Text.padded_ne_nil 3 _) fun c => Text.isDigit_of_mem_padded
  | yearOfCentury | month | day | hour | clockHour | minute | second => exact htwo _
  | monthName long =>
      have hindex := month_lt m.date
      obtain ⟨hne, htrim⟩ := trimStart_names Field.monthNames (by decide)
        (Field.nameAt Field.monthNames (m.date.month - 1).toNat)
        (nameAt_eq hindex ▸ List.getElem_mem hindex) long
      exact trimStart_append hne htrim
  | weekdayName long =>
      have hindex := weekdayOf_lt m.date.toDay
      obtain ⟨hne, htrim⟩ := trimStart_names Field.weekdayNames (by decide)
        (Field.nameAt Field.weekdayNames (weekdayOf m.date.toDay))
        (nameAt_eq hindex ▸ List.getElem_mem hindex) long
      exact trimStart_append hne htrim
  | half =>
      show Text.trimStart ((if m.hour < 12 then ['A', 'M'] else ['P', 'M']) ++ rest)
        = (if m.hour < 12 then ['A', 'M'] else ['P', 'M']) ++ rest
      split <;> rfl
  | fraction digits =>
      show Text.trimStart (Text.padded 3 m.millis ++ List.replicate (digits - 3) '0' ++ rest) = _
      rw [List.append_assoc]
      exact Text.trimStart_digits (Text.padded_ne_nil 2 _) fun c => Text.isDigit_of_mem_padded
  | offset colon => cases colon <;> rfl

/-- A text begins with a blank only if its pattern does. -/
theorem trimStart_flatMap (hm : Writable m) (h : ∀ segs, segments items ≠ .blanks :: segs) :
    Text.trimStart (items.flatMap (Item.text m)) = items.flatMap (Item.text m) := by
  cases items with
  | nil => rfl
  | cons item items =>
      rw [List.flatMap_cons]
      cases item with
      | field k => exact trimStart_text hm k
      | literal c =>
          cases hc : Text.isBlank c with
          | false => exact Text.trimStart_of_not_isBlank hc
          | true =>
              have hsegs : segments (.literal c :: items)
                  = addItem (.literal c) (segments items) := rfl
              simp only [addItem, hc, if_true] at hsegs
              split at hsegs
              · exact absurd hsegs (h _)
              · exact absurd hsegs (h _)

/-! ## A whole text -/

theorem takeLiteral_cons {c : Char} {text cs : List Char} :
    takeLiteral (c :: text) (c :: cs) = takeLiteral text cs := by
  unfold takeLiteral
  simp only [Text.byteLength, Nat.add_lt_add_iff_left, Text.after?, if_true]

theorem takeLiteral_nil {cs : List Char} : takeLiteral [] cs = .ok cs := rfl

/-- A literal character of the pattern takes itself, whichever run it joins. -/
theorem readSegments_addLiteral {f : Findings} {c : Char} {segs : List Segment} {cs : List Char}
    (hblank : (∀ segs', segs ≠ .blanks :: segs') → Text.trimStart cs = cs) :
    readSegments f (addItem (.literal c) segs) (c :: cs) = readSegments f segs cs := by
  have hliteral : ∀ {text : List Char} {segs' : List Segment},
      readSegments f (.literal (c :: text) :: segs') (c :: cs)
        = takeLiteral text cs >>= fun rest => readSegments f segs' rest := by
    intro text segs'
    show (takeLiteral (c :: text) (c :: cs) >>= fun rest => pure (f, rest)) >>= _ = _
    rw [takeLiteral_cons]
    cases takeLiteral text cs <;> rfl
  have halone : readSegments f (.literal [c] :: segs) (c :: cs) = readSegments f segs cs := by
    rw [hliteral, takeLiteral_nil]
    rfl
  have hblanks : Text.isBlank c = true → ∀ segs',
      readSegments f (.blanks :: segs') (c :: cs) = readSegments f segs' (Text.trimStart cs) := by
    intro hc segs'
    show readSegments f segs' (Text.trimStart (c :: cs)) = _
    rw [Text.trimStart_of_isBlank hc]
  simp only [addItem]
  by_cases hc : Text.isBlank c = true
  · rw [if_pos hc]
    split
    · exact hblanks hc _
    -- a run of blanks takes every blank there is, so none may be left for what follows
    · next hno => rw [hblanks hc, hblank hno]
  · rw [if_neg hc]
    by_cases hpercent : [c] = percent
    · rw [if_pos hpercent, ← hpercent]
      exact halone
    · rw [if_neg hpercent]
      split
      · next text segs' =>
        by_cases htext : text = percent
        · rw [if_pos htext]
          exact halone
        · rw [if_neg htext, hliteral]
          show _ = (takeLiteral text cs >>= fun rest => pure (f, rest)) >>= _
          cases takeLiteral text cs <;> rfl
      · exact halone

theorem ofItems_literal (c : Char) (items : List Item) :
    Findings.ofItems m (done ++ .literal c :: items) = Findings.ofItems m (done ++ items) := by
  have hhas : ∀ kind, has (done ++ .literal c :: items) kind = has (done ++ items) kind := by
    intro kind
    rw [has_append, has_append]
    rfl
  simp only [Findings.ofItems, hhas]

/-- What is written by some items is read by their segments, and exactly their fields are found. -/
theorem readSegments_text (hm : Writable m) : ∀ items done : List Item,
    (∀ digits, .field (.fraction digits) ∈ items → digits = 3 ∨ digits = 6 ∨ digits = 9) →
      readSegments (Findings.ofItems m done) (segments items) (items.flatMap (Item.text m))
        = .ok (Findings.ofItems m (done ++ items))
  | [], done, _ => by
      rw [List.append_nil]
      rfl
  | .literal c :: items, done, hdigits => by
      have ih := readSegments_text hm items done
        fun digits hmem => hdigits digits (List.mem_cons_of_mem _ hmem)
      rw [ofItems_literal, ← ih]
      exact readSegments_addLiteral (trimStart_flatMap hm)
  | .field k :: items, done, hdigits => by
      have ih := readSegments_text hm items (done ++ [.field k])
        fun digits hmem => hdigits digits (List.mem_cons_of_mem _ hmem)
      rw [List.append_assoc] at ih
      refine bind_eq_ok.mpr ⟨(_, items.flatMap (Item.text m)), ?_, ih⟩
      exact read_text hm fun digits hk => hdigits digits (hk ▸ List.mem_cons_self)

end Almanac.Pattern
