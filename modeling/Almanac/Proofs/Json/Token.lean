import Mathlib.Data.List.Basic
import Almanac.Json.Parser
import Almanac.Json.Printer
import Almanac.Proofs.Text.Run
/-!
# Tokens are read back

A text in quotes is read back character by character, whatever stands after its closing quote.  The
other values that hold no more of their kind end where a delimiter begins (`Delimits`).  That
matters for numbers alone: their digits could go on, and a point or an exponent could follow them.
-/

namespace Almanac.Json

variable {c : Char} {cs rest : List Char} {n : Nat}

/-! ## Quoted texts -/

theorem quotedText?_short {letter : Char} (h : shortEscape? letter = some c) (hu : letter ≠ 'u')
    (rest : List Char) :
    quotedText? ('\\' :: letter :: rest) = (quotedText? rest).map (prepend c) := by
  rw [quotedText?, h]
  · exact Option.map_eq_bind.symm
  · intro a b d e rest' hletter
    exact absurd hletter hu

theorem hexFour?_control : ∀ n < 0x20,
    hexFour? '0' '0' (Nat.digitChar (n / 16)) (Nat.digitChar (n % 16)) = some n := by
  decide

theorem quotedText?_control (h : c.toNat < 0x20) (rest : List Char) :
    quotedText? ('\\' :: 'u' :: '0' :: '0' :: Nat.digitChar (c.toNat / 16) ::
      Nat.digitChar (c.toNat % 16) :: rest) = (quotedText? rest).map (prepend c) := by
  have hunit : wholeUnit? c.toNat = some c := by
    rw [wholeUnit?, if_pos (by omega), Char.ofNat_toNat]
  rw [quotedText?, hexFour?_control c.toNat h]
  simp only [Option.bind_eq_bind, Option.bind_some, hunit]
  exact Option.map_eq_bind.symm

theorem quotedText?_plain (hquote : c ≠ '"') (hslash : c ≠ '\\') (h : 0x20 ≤ c.toNat)
    (rest : List Char) : quotedText? (c :: rest) = (quotedText? rest).map (prepend c) := by
  rw [quotedText?]
  · rw [if_neg]
    rintro (hc | hc)
    · exact hslash hc
    · omega
  · exact hquote
  · intro a b d e rest' hc
    exact absurd hc hslash
  · intro d rest' hc
    exact absurd hc hslash

/-- A character is read back as it is escaped, or as itself. -/
theorem quotedText?_escaped (c : Char) (rest : List Char) :
    quotedText? (escaped c ++ rest) = (quotedText? rest).map (prepend c) := by
  unfold escaped
  split
  · exact quotedText?_short rfl (by decide) rest
  · exact quotedText?_short rfl (by decide) rest
  · exact quotedText?_short rfl (by decide) rest
  · exact quotedText?_short rfl (by decide) rest
  · exact quotedText?_short rfl (by decide) rest
  · exact quotedText?_short rfl (by decide) rest
  · exact quotedText?_short rfl (by decide) rest
  · next hquote hslash _ _ _ _ _ =>
    split
    · next hcontrol => exact quotedText?_control hcontrol rest
    · next hplain => exact quotedText?_plain hquote hslash (Nat.le_of_not_lt hplain) rest

theorem quotedText?_flatMap (cs rest : List Char) :
    quotedText? (cs.flatMap escaped ++ '"' :: rest) = some (cs, rest) := by
  induction cs with
  | nil => rfl
  | cons c cs ih =>
      rw [List.flatMap_cons, List.append_assoc, quotedText?_escaped, ih]
      rfl

/-! ## Numbers -/

/-- A text that does not go on with a number. -/
def Delimits (rest : List Char) : Prop := ∀ c ∈ rest.head?, c ∈ [',', ']', '\x7d']

theorem delimits_nil : Delimits [] := nofun

theorem delimits_cons (h : c ∈ [',', ']', '\x7d']) : Delimits (c :: rest) := by
  intro d hd
  obtain rfl := Option.some.inj hd
  exact h

theorem Delimits.stops (h : Delimits rest) : Text.Stops Char.isDigit rest := by
  have hdigits : ∀ c ∈ [',', ']', '\x7d'], c.isDigit = false := by simp
  intro c hc
  exact hdigits c (h c hc)

theorem wholePart?_decimal (n : Nat) (hrest : Text.Stops Char.isDigit rest) :
    wholePart? (Text.decimal n ++ rest) = some (Text.decimal n, rest) := by
  rcases Nat.eq_zero_or_pos n with rfl | hn
  · rfl
  · unfold wholePart?
    split
    · next hzero =>
      have hhead := Text.head_decimal hn
      rw [← List.head?_append_of_ne_nil _ (Text.decimal_ne_nil n), hzero] at hhead
      exact absurd rfl hhead
    · have hrun := Text.takeWhile_run (fun c => Text.isDigit_of_mem_decimal (n := n)) hrest
      simp only [hrun, if_neg (Text.decimal_ne_nil n), List.drop_left]

theorem fraction?_of_delimits (h : Delimits rest) : fraction? rest = some ([], rest) := by
  unfold fraction?
  split
  · have hpoint := h '.' rfl
    simp at hpoint
  · rfl

theorem exponent?_of_delimits (h : Delimits rest) : exponent? rest = some (none, rest) := by
  cases rest with
  | nil => rfl
  | cons c rest =>
      have hmark : ∀ c ∈ [',', ']', '\x7d'], ¬(c = 'e' ∨ c = 'E') := by simp
      exact if_neg (hmark c (h c rfl))

theorem number?_natural (hn : n < 18446744073709551616) (hrest : Delimits rest) :
    number? (Text.decimal n ++ rest) = some (.int n, rest) := by
  have hkept : isWhole false n = true := decide_eq_true hn
  unfold number?
  split
  next negative cs hsign =>
  split at hsign
  · next left hdash =>
    -- the first digit is not the sign
    obtain ⟨c, ds, hc, hdigits⟩ := Text.exists_cons_decimal n
    rw [hdigits] at hdash
    cases hdash
    cases hc
  · obtain ⟨rfl, rfl⟩ := Prod.mk.inj hsign
    simp only [wholePart?_decimal n hrest.stops, fraction?_of_delimits hrest,
      exponent?_of_delimits hrest, Option.bind_eq_bind, Option.bind_some, Text.number_decimal,
      hkept]
    rfl

theorem number?_negative (hpos : 0 < n) (hn : n ≤ 9223372036854775808) (hrest : Delimits rest) :
    number? ('-' :: Text.decimal n ++ rest) = some (.int (-(n : Int)), rest) := by
  have hkept : isWhole true n = true := by simp [isWhole, hpos, hn]
  simp only [number?, List.cons_append, wholePart?_decimal n hrest.stops,
    fraction?_of_delimits hrest, exponent?_of_delimits hrest, Option.bind_eq_bind,
    Option.bind_some, Text.number_decimal, hkept]
  rfl

/-- An integer of 64 bits, signed or not. -/
def IsKept (n : Int) : Prop := -9223372036854775808 ≤ n ∧ n < 18446744073709551616

theorem number?_toString {n : Int} (h : IsKept n) (hrest : Delimits rest) :
    number? ((toString n).toList ++ rest) = some (.int n, rest) := by
  obtain ⟨hleast, hgreatest⟩ := h
  rw [Int.toString_eq_repr, Int.repr_eq_if]
  split
  · next hpos =>
    have hread := number?_natural (n := n.toNat) (by omega) hrest
    rwa [Int.toNat_of_nonneg hpos, Text.decimal, ← Nat.toList_repr] at hread
  · next hneg =>
    have hread := number?_negative (n := (-n).toNat) (by omega) (by omega) hrest
    rw [Int.toNat_of_nonneg (by omega), Int.neg_neg, Text.decimal, ← Nat.toList_repr] at hread
    rw [String.toList_append]
    exact hread

/-! ## Tokens -/

theorem toList_quoted (s : String) :
    (quoted s).toList = '"' :: s.toList.flatMap escaped ++ ['"'] := by
  simp [quoted]

theorem token?_quoted (s : String) (rest : List Char) :
    token? ((quoted s).toList ++ rest) = some (.value (.str s), rest) := by
  have htext := quotedText?_flatMap s.toList rest
  rw [toList_quoted]
  simp only [List.cons_append, List.append_assoc, List.nil_append]
  simp [token?, htext]

/-- A number begins with a digit or a sign, and no other token does. -/
theorem token?_number (h : c.isDigit = true ∨ c = '-') :
    token? (c :: cs) = (number? (c :: cs)).map fun r => (.value r.1, r.2) := by
  have hne : ∀ d, d.isDigit = false → d ≠ '-' → c ≠ d := by
    rintro d hdigit hsign rfl
    rcases h with h | h
    · rw [h] at hdigit
      cases hdigit
    · exact hsign h
  simp only [token?, if_neg (hne '[' (by decide) (by decide)),
    if_neg (hne ']' (by decide) (by decide)), if_neg (hne '\x7b' (by decide) (by decide)),
    if_neg (hne '\x7d' (by decide) (by decide)), if_neg (hne ',' (by decide) (by decide)),
    if_neg (hne ':' (by decide) (by decide)), if_neg (hne '"' (by decide) (by decide)),
    if_neg (hne 't' (by decide) (by decide)), if_neg (hne 'f' (by decide) (by decide)),
    if_neg (hne 'n' (by decide) (by decide))]

theorem exists_cons_toString (n : Int) :
    ∃ c cs, (c.isDigit = true ∨ c = '-') ∧ (toString n).toList = c :: cs := by
  rw [Int.toString_eq_repr, Int.repr_eq_if]
  split
  · rw [Nat.toList_repr]
    obtain ⟨c, cs, hc, hdigits⟩ := Text.exists_cons_decimal n.toNat
    exact ⟨c, cs, Or.inl hc, hdigits⟩
  · exact ⟨'-', _, Or.inr rfl, String.toList_append⟩

theorem token?_toString {n : Int} (h : IsKept n) (hrest : Delimits rest) :
    token? ((toString n).toList ++ rest) = some (.value (.int n), rest) := by
  have hread := number?_toString h hrest
  obtain ⟨c, cs, hc, htext⟩ := exists_cons_toString n
  rw [htext, List.cons_append] at hread ⊢
  rw [token?_number hc, hread]
  rfl

/-- A value that holds no others, and that is read back. -/
inductive IsLeaf : Json → Prop
  | null : IsLeaf .null
  | bool (b : Bool) : IsLeaf (.bool b)
  | int {n : Int} : IsKept n → IsLeaf (.int n)
  | str (s : String) : IsLeaf (.str s)

theorem token?_leaf {j : Json} (h : IsLeaf j) (hrest : Delimits rest) :
    token? (j.leaf.toList ++ rest) = some (.value j, rest) := by
  cases h with
  | null => simp [leaf, token?, Text.after?]
  | bool b => cases b <;> simp [leaf, token?, Text.after?]
  | int hn => exact token?_toString hn hrest
  | str s => exact token?_quoted s rest

theorem isSeparator_of_isDigit (h : c.isDigit = true) : isSeparator c = false := by
  have hne (d : Char) (hd : d.isDigit = false) : decide (c = d) = false :=
    decide_eq_false (Text.isDigit_ne h hd)
  rw [isSeparator, hne ' ' (by decide), hne '\n' (by decide), hne '\t' (by decide),
    hne '\r' (by decide)]
  rfl

/-- A value that holds no others is written as something, and not in blanks. -/
theorem IsLeaf.exists_cons {j : Json} (h : IsLeaf j) :
    ∃ c cs, isSeparator c = false ∧ j.leaf.toList = c :: cs := by
  cases h with
  | null => exact ⟨'n', _, by decide, rfl⟩
  | bool b =>
      cases b with
      | true => exact ⟨'t', _, by decide, rfl⟩
      | false => exact ⟨'f', _, by decide, rfl⟩
  | @int n hn =>
      obtain ⟨c, cs, hc, htext⟩ := exists_cons_toString n
      refine ⟨c, cs, ?_, htext⟩
      rcases hc with hc | rfl
      · exact isSeparator_of_isDigit hc
      · decide
  | str s => exact ⟨'"', _, by decide, toList_quoted s⟩

end Almanac.Json
