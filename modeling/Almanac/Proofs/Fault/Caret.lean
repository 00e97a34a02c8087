import Mathlib.Data.List.TakeWhile
import Almanac.Fault.Diagnostic
import Almanac.Proofs.Fault.Place
import Almanac.Proofs.Text.Digits
import Almanac.Timestamp.OptionalTime
/-!
# Carets under a part of a line

A diagnostic shows the text, and below it a row of carets under the part that is to blame.  The row
begins at the column of the part, and columns count characters.  The carets, though, are as many as
the location is long, and lengths count BYTES.  So the row is right for a part in ASCII and for no
other (`PointsAt.renderUnder_eq_shown_iff`).  It is never too short: it goes on under what follows
the part, or past the end of the line.
-/

namespace Almanac

variable {before inside after cs : List Char}

/-! ## Characters and bytes -/

theorem Text.byteLength_eq_length_iff :
    byteLength cs = cs.length ↔ ∀ c ∈ cs, c.toNat ≤ 127 := by
  induction cs with
  | nil => exact iff_of_true rfl nofun
  | cons c cs ih =>
      have hsize : 0 < c.utf8Size := c.utf8Size_pos
      have hlength : cs.length ≤ byteLength cs := length_le_byteLength cs
      calc byteLength (c :: cs) = (c :: cs).length
          ↔ c.utf8Size = 1 ∧ byteLength cs = cs.length := by
            rw [byteLength, List.length_cons]
            omega
        _ ↔ c.toNat ≤ 127 ∧ ∀ d ∈ cs, d.toNat ≤ 127 :=
            and_congr (Char.utf8Size_eq_one_iff.trans UInt32.le_iff_toNat_le) ih
        _ ↔ ∀ d ∈ c :: cs, d.toNat ≤ 127 := by rw [List.forall_mem_cons]

theorem Position.ofOffset_firstLine (h : '\n' ∉ before) :
    Position.ofOffset (String.ofList (before ++ after)) (Text.byteLength before)
      = ⟨1, before.length + 1⟩ := by
  have hrow : before.reverse.takeWhile (· ≠ '\n') = before.reverse := by
    refine List.takeWhile_eq_self_iff.mpr fun c hc => decide_eq_true ?_
    rintro rfl
    exact h (List.mem_reverse.mp hc)
  rw [Position.ofOffset_byteLength String.toList_ofList, Position.foldl_advance,
    List.count_eq_zero_of_not_mem h, hrow, List.length_reverse]

/-! ## Diagnostics that show a line -/

namespace Diagnostic

variable {d : Diagnostic} {heading : String}

/-- The diagnostic points at the part of a line between `before` and `after`. -/
def PointsAt (d : Diagnostic) (before inside after : List Char) : Prop :=
  d.location = some (.ofSpan ⟨Text.byteLength before, Text.byteLength (before ++ inside)⟩
    (String.ofList (before ++ inside ++ after)))

/-- The rows of a diagnostic that shows a line, with so many blanks and so many carets below it. -/
def shown (d : Diagnostic) (heading : String) (line : List Char) (blanks carets : Nat) : String :=
  heading ++ "[" ++ d.code.render ++ "]: " ++ d.message
    ++ "\n  --> 1:" ++ toString (blanks + 1)
    ++ "\n   |\n   | " ++ String.ofList line
    ++ "\n   | " ++ String.ofList (List.replicate blanks ' ' ++ List.replicate carets '^')
    ++ (d.help.map fun help => "\n   = help: " ++ help).getD ""

theorem shown_inj {line : List Char} {blanks m n : Nat} :
    d.shown heading line blanks m = d.shown heading line blanks n ↔ m = n := by
  constructor
  · intro h
    have hlength := congrArg String.length h
    simp only [shown, String.length_append, String.length_ofList, List.length_append,
      List.length_replicate] at hlength
    omega
  · rintro rfl
    rfl

theorem PointsAt.location_eq (h : d.PointsAt before inside after) (hline : '\n' ∉ before) :
    d.location = some ⟨1, before.length + 1, Text.byteLength before, Text.byteLength inside⟩ := by
  have hlength : Text.byteLength (before ++ inside) - Text.byteLength before
      = Text.byteLength inside := by
    rw [Text.byteLength_append, Nat.add_sub_cancel_left]
  rw [h, Location.ofSpan, List.append_assoc, Position.ofOffset_firstLine hline]
  exact congrArg some (congrArg (Location.mk 1 _ _) hlength)

theorem PointsAt.renderUnder_eq_shown (h : d.PointsAt before inside after)
    (hline : '\n' ∉ before) :
    d.renderUnder heading (String.ofList (before ++ inside ++ after)) =
      d.shown heading (before ++ inside ++ after) before.length
        (max (Text.byteLength inside) 1) := by
  have hplace : "\n  --> 1:" = "\n  --> " ++ toString 1 ++ ":" := rfl
  have hgutter : "\n   | " = "\n" ++ "   | " := rfl
  rw [renderUnder, h.location_eq hline, shown, hplace, hgutter]
  simp only [Option.map_some, Option.getD_some, sourceRows, caretRow, Location.render,
    Nat.add_sub_cancel, String.ofList_append, String.append_assoc]

/-- The row of carets has one for each character exactly if the part is in ASCII. -/
theorem PointsAt.renderUnder_eq_shown_iff (h : d.PointsAt before inside after)
    (hline : '\n' ∉ before) :
    d.renderUnder heading (String.ofList (before ++ inside ++ after)) =
        d.shown heading (before ++ inside ++ after) before.length (max inside.length 1) ↔
      ∀ c ∈ inside, c.toNat ≤ 127 := by
  have hlength : inside.length ≤ Text.byteLength inside := Text.length_le_byteLength inside
  calc _ ↔ max (Text.byteLength inside) 1 = max inside.length 1 := by
        rw [h.renderUnder_eq_shown hline, shown_inj]
    _ ↔ Text.byteLength inside = inside.length := by
        cases inside with
        | nil => exact iff_of_true rfl rfl
        | cons c inside =>
            rw [List.length_cons] at hlength ⊢
            omega
    _ ↔ ∀ c ∈ inside, c.toNat ≤ 127 := Text.byteLength_eq_length_iff

/-- A diagnostic that points into a line shows, below the line, a blank for each character in front
of the part and a caret for each byte of the part, one at least.  These are never fewer than the
characters of the part, and they are as many exactly if all of the part is in ASCII. -/
theorem carets_are_bytes (h : d.PointsAt before inside after)
    (hline : '\n' ∉ before ++ inside ++ after) (heading : String) :
    d.renderUnder heading (String.ofList (before ++ inside ++ after)) =
        d.shown heading (before ++ inside ++ after) before.length
          (max (Text.byteLength inside) 1) ∧
      max inside.length 1 ≤ max (Text.byteLength inside) 1 ∧
      (d.renderUnder heading (String.ofList (before ++ inside ++ after)) =
          d.shown heading (before ++ inside ++ after) before.length (max inside.length 1) ↔
        ∀ c ∈ inside, c.toNat ≤ 127) := by
  have hbefore : '\n' ∉ before := fun hmem =>
    hline (List.mem_append_left after (List.mem_append_left inside hmem))
  have hlength : inside.length ≤ Text.byteLength inside := Text.length_le_byteLength inside
  exact ⟨h.renderUnder_eq_shown hbefore, by omega, h.renderUnder_eq_shown_iff hbefore⟩

/-- The quote that is never closed has three characters and six carets. -/
theorem carets_are_bytes_of_quote :
    let d := ofFault (.badPattern "yyyy-'é日" ⟨5, 11⟩ "unterminated quoted literal")
    d.render "yyyy-'é日" = d.shown "error" "yyyy-'é日".toList 5 6 ∧
      d.render "yyyy-'é日" ≠ d.shown "error" "yyyy-'é日".toList 5 3 := by
  intro d
  have hpoints : d.PointsAt "yyyy-".toList "'é日".toList [] := rfl
  obtain ⟨hshown, -, hascii⟩ := carets_are_bytes hpoints (by decide) "error"
  refine ⟨hshown, fun hthree => ?_⟩
  exact absurd (hascii.mp hthree 'é' (by decide)) (by decide)

/-- What is wrong with a letter in place of a year is one character, and below it are two carets. -/
theorem two_carets_for_one_character :
    ∃ fault, Timestamp.readOptionalTime ['é'] = .error fault ∧
      (ofFault fault).PointsAt [] ['é'] [] ∧
      (ofFault fault).render "é" = (ofFault fault).shown "error" ['é'] 0 2 ∧
      (ofFault fault).render "é" ≠ (ofFault fault).shown "error" ['é'] 0 1 := by
  have hpoints : (ofFault (.malformedTimestamp "é" ⟨0, 2⟩ "expected a 4-digit year")).PointsAt
      [] ['é'] [] := rfl
  refine ⟨_, rfl, hpoints, hpoints.renderUnder_eq_shown List.not_mem_nil, fun hone => ?_⟩
  have hascii := (hpoints.renderUnder_eq_shown_iff List.not_mem_nil).mp hone
  exact absurd (hascii 'é' List.mem_cons_self) (by decide)

end Diagnostic

end Almanac
