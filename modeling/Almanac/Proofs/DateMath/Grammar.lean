import Almanac.Proofs.DateMath.Reading
import Almanac.Proofs.Text.Run
import Almanac.Proofs.Timestamp.Spelling
/-!
# The grammar of operations

Operations are spelled by tokens, one for each and nothing in between.  An offset is a sign, digits
and a unit word, a rounding is a slash and a unit word.  `Token.Denotes` says which operation a
token spells, without the reader: the unit words are listed, and an amount is bounded as a number.

Tokens have no length of their own.  Each takes as many digits and letters as there are, and what
holds them apart is that a token begins with a mark and ends with a letter.  So a reader that takes
all the digits and letters it finds takes a token exactly (`reads_iff`), and texts of tokens are
read as what the tokens denote.  For the same reason a text is one of tokens in one way at most
(`tokensText_injective`): the marks say where each begins.
-/

namespace Almanac.DateMath

open Timestamp (Sign)

variable {cs rest rest' word : List Char} {unit : CalendarUnit} {amount : Int64} {sign : Sign}
  {op : Operation} {ops : List Operation} {n : Nat}

/-! ## Unit words -/

/-- The unit words in the singular, with what they name. -/
def unitWords : List (String × CalendarUnit) :=
  [("YEAR", .year), ("MONTH", .month), ("DAY", .day), ("DATE", .day), ("HOUR", .hour),
    ("MINUTE", .minute), ("SECOND", .second), ("MILLI", .millisecond),
    ("MILLISECOND", .millisecond)]

/-- A word names a unit in the singular or with one `S` added, in any case of its letters. -/
def Names (word : List Char) (unit : CalendarUnit) : Prop :=
  ∃ singular, (singular, unit) ∈ unitWords ∧
    (Text.upper word = singular.toList ∨ Text.upper word = singular.toList ++ ['S'])

theorem ofWord?_unitWords :
    ∀ entry ∈ unitWords, CalendarUnit.ofWord? entry.1.toList = some entry.2 ∧
      CalendarUnit.ofWord? (entry.1.toList ++ ['S']) = some entry.2 := by
  decide

theorem names_iff : Names word unit ↔ CalendarUnit.ofWord? word = some unit := by
  constructor
  · rintro ⟨singular, hentry, hword⟩
    obtain ⟨hsingular, hplural⟩ := ofWord?_unitWords _ hentry
    rw [← ofWord?_upper]
    rcases hword with h | h
    · rw [h, hsingular]
    · rw [h, hplural]
  · intro h
    have hspelled := List.find?_some h
    simp only [CalendarUnit.isSpelled, List.any_eq_true, Bool.or_eq_true, beq_iff_eq] at hspelled
    obtain ⟨singular, hmem, hword⟩ := hspelled
    refine ⟨singular, ?_, hword⟩
    have hlisted : ∀ u : CalendarUnit, ∀ w ∈ u.words, (w, u) ∈ unitWords := by
      intro u
      cases u <;> decide
    exact hlisted unit singular hmem

/-- Letters, one at least. -/
structure IsLetters (word : List Char) : Prop where
  ne_nil : word ≠ []
  isAlpha : ∀ c ∈ word, c.isAlpha = true

theorem IsLetters.stops (h : IsLetters word) : Text.Stops Char.isDigit (word ++ rest) :=
  Text.stops_append h.ne_nil fun c hc => Text.isDigit_of_isAlpha (h.isAlpha c hc)

theorem Names.isLetters (h : Names word unit) : IsLetters word := by
  obtain ⟨singular, hentry, hword⟩ := h
  have hlisted : ∀ entry ∈ unitWords, entry.1.toList ≠ [] ∧
      (entry.1.toList ++ ['S']).all Char.isAlpha = true := by
    decide
  obtain ⟨hne, hall⟩ := hlisted _ hentry
  have hletters := List.all_eq_true.mp hall
  constructor
  · rintro rfl
    rcases hword with h | h
    · exact hne h.symm
    · exact absurd h.symm (List.append_ne_nil_of_right_ne_nil _ (List.cons_ne_nil _ _))
  · intro c hc
    have hmem : c.toUpper ∈ Text.upper word := List.mem_map_of_mem hc
    rw [← Text.isAlpha_toUpper]
    rcases hword with h | h
    · exact hletters _ (List.mem_append_left _ (h ▸ hmem))
    · exact hletters _ (h ▸ hmem)

theorem readUnit_eq_ok_iff_names :
    readUnit cs = .ok (unit, rest) ↔
      ∃ word, Names word unit ∧ Text.Stops Char.isAlpha rest ∧ cs = word ++ rest := by
  rw [readUnit_eq_ok_iff]
  constructor
  · rintro ⟨-, hunit, rfl⟩
    exact ⟨_, names_iff.mpr hunit, Text.stops_dropWhile _ _,
      List.takeWhile_append_dropWhile.symm⟩
  · rintro ⟨word, hword, hrest, rfl⟩
    obtain ⟨hne, hletters⟩ := hword.isLetters
    rw [Text.takeWhile_run hletters hrest, Text.dropWhile_run hletters hrest]
    exact ⟨hne, names_iff.mp hword, rfl⟩

/-! ## Amounts -/

/-- One digit or more, of a number that a word can hold. -/
structure IsAmount (digits : List Char) : Prop where
  ne_nil : digits ≠ []
  isDigit : ∀ c ∈ digits, c.isDigit = true
  le_greatest : (Text.number digits : Int) ≤ Word.greatest

/-- The sign of a number that a word can hold always counts: only the least word has no opposite. -/
theorem signed_eq_iff :
    (∃ w, Word.fit? n = some w ∧ amount = if sign.mark = '-' then -w else w) ↔
      (n : Int) ≤ Word.greatest ∧ amount.toInt = sign.apply n := by
  have hsigned : ∀ w : Int64, w.toInt = n →
      (if sign.mark = '-' then -w else w).toInt = sign.apply n := by
    intro w hw
    have hfits := Word.fits_toInt w
    unfold Word.Fits Word.greatest at hfits
    cases sign with
    | plus => exact hw
    | minus =>
        show (-w).toInt = -(n : Int)
        rw [Int64.toInt_neg, Int.bmod_eq_of_le (by omega) (by omega), hw]
  constructor
  · rintro ⟨w, hw, rfl⟩
    have hw := Word.fit?_eq_some_iff.mp hw
    exact ⟨hw ▸ (Word.fits_toInt w).2, hsigned w hw⟩
  · rintro ⟨hgreatest, hamount⟩
    have hleast : Word.least ≤ n := by
      unfold Word.least
      omega
    obtain ⟨w, hw, hn⟩ := Word.fit?_of_fits ⟨hleast, hgreatest⟩
    exact ⟨w, hw, Int64.toInt_inj.mp (hamount.trans (hsigned w hn).symm)⟩

theorem readAmount_eq_ok_iff_digits :
    readAmount sign.mark cs = .ok (amount, rest) ↔
      ∃ digits, IsAmount digits ∧ amount.toInt = sign.apply (Text.number digits) ∧
        Text.Stops Char.isDigit rest ∧ cs = digits ++ rest := by
  rw [readAmount_eq_ok_iff]
  simp only [signed_eq_iff]
  constructor
  · rintro ⟨hne, ⟨hgreatest, hamount⟩, rfl⟩
    exact ⟨_, ⟨hne, fun c => List.mem_takeWhile_imp, hgreatest⟩, hamount,
      Text.stops_dropWhile _ _, List.takeWhile_append_dropWhile.symm⟩
  · rintro ⟨digits, ⟨hne, hdigits, hgreatest⟩, hamount, hrest, rfl⟩
    rw [Text.takeWhile_run hdigits hrest, Text.dropWhile_run hdigits hrest]
    exact ⟨hne, ⟨hgreatest, hamount⟩, rfl⟩

/-! ## Tokens -/

/-- An operation as it is written. -/
inductive Token where
  | offset (sign : Sign) (digits word : List Char)
  | round (word : List Char)

namespace Token

def text : Token → List Char
  | offset sign digits word => sign.mark :: digits ++ word
  | round word => '/' :: word

/-- The operation that a token spells. -/
inductive Denotes : Token → Operation → Prop
  | offset {sign : Sign} {digits word : List Char} {unit : CalendarUnit} {amount : Int64} :
      IsAmount digits → Names word unit → amount.toInt = sign.apply (Text.number digits) →
        Denotes (.offset sign digits word) (.offset unit amount)
  | round {word : List Char} {unit : CalendarUnit} :
      Names word unit → Denotes (.round word) (.round unit)

/-- A token begins with a mark, and so with no letter. -/
theorem stops_text (t : Token) (rest : List Char) : Text.Stops Char.isAlpha (t.text ++ rest) := by
  cases t with
  | offset sign digits word => cases sign <;> exact Text.stops_cons (by decide)
  | round word => exact Text.stops_cons (by decide)

end Token

theorem mark_eq_iff {c : Char} : (c = '+' ∨ c = '-') ↔ ∃ sign : Sign, sign.mark = c := by
  constructor
  · rintro (rfl | rfl)
    · exact ⟨.plus, rfl⟩
    · exact ⟨.minus, rfl⟩
  · rintro ⟨sign, rfl⟩
    cases sign with
    | plus => exact Or.inl rfl
    | minus => exact Or.inr rfl

theorem mark_injective {sign sign' : Sign} (h : sign.mark = sign'.mark) : sign = sign' := by
  cases sign with
  | plus =>
      cases sign' with
      | plus => rfl
      | minus => exact absurd h (by decide)
  | minus =>
      cases sign' with
      | plus => exact absurd h (by decide)
      | minus => rfl

theorem mark_ne_slash (sign : Sign) : sign.mark ≠ '/' := by
  cases sign <;> decide

/-- An operation is read exactly where a token of it is written and no letter follows. -/
theorem reads_iff :
    Reads cs op rest ↔
      ∃ t : Token, t.Denotes op ∧ Text.Stops Char.isAlpha rest ∧ cs = t.text ++ rest := by
  constructor
  · intro h
    cases h with
    | round hunit =>
        obtain ⟨word, hword, hrest, rfl⟩ := readUnit_eq_ok_iff_names.mp hunit
        exact ⟨.round word, .round hword, hrest, rfl⟩
    | offset hsign hamount hunit =>
        obtain ⟨sign, rfl⟩ := mark_eq_iff.mp hsign
        obtain ⟨digits, hdigits, hvalue, -, rfl⟩ := readAmount_eq_ok_iff_digits.mp hamount
        obtain ⟨word, hword, hrest, rfl⟩ := readUnit_eq_ok_iff_names.mp hunit
        exact ⟨.offset sign digits word, .offset hdigits hword hvalue, hrest,
          by simp only [Token.text, List.cons_append, List.append_assoc]⟩
  · rintro ⟨t, hdenotes, hrest, rfl⟩
    cases hdenotes with
    | round hword => exact .round (readUnit_eq_ok_iff_names.mpr ⟨_, hword, hrest, rfl⟩)
    | offset hdigits hword hvalue =>
        simp only [Token.text, List.cons_append, List.append_assoc]
        -- the digits end where the unit word begins
        exact .offset (mark_eq_iff.mpr ⟨_, rfl⟩)
          (readAmount_eq_ok_iff_digits.mpr ⟨_, hdigits, hvalue, hword.isLetters.stops, rfl⟩)
          (readUnit_eq_ok_iff_names.mpr ⟨_, hword, hrest, rfl⟩)

/-! ## Texts of tokens -/

/-- Operations and the tokens that spell them. -/
def Spells (tokens : List Token) (ops : List Operation) : Prop :=
  List.Forall₂ Token.Denotes tokens ops

def tokensText (tokens : List Token) : List Char := tokens.flatMap Token.text

theorem stops_tokensText (tokens : List Token) :
    Text.Stops Char.isAlpha (tokensText tokens) := by
  cases tokens with
  | nil => exact Text.stops_nil
  | cons t tokens => exact t.stops_text _

theorem scanOperations_of_spells {tokens : List Token} (h : Spells tokens ops) :
    scanOperations (tokensText tokens) = .ok ops := by
  induction h with
  | nil => exact scanOperations_eq_nil_iff.mpr rfl
  | cons hdenotes _ ih =>
      exact scanOperations_eq_cons_iff.mpr
        ⟨_, reads_iff.mpr ⟨_, hdenotes, stops_tokensText _, rfl⟩, ih⟩

theorem scanOperations_iff_spells :
    scanOperations cs = .ok ops ↔ ∃ tokens, tokensText tokens = cs ∧ Spells tokens ops := by
  constructor
  · intro h
    induction ops generalizing cs with
    | nil => exact ⟨[], (scanOperations_eq_nil_iff.mp h).symm, .nil⟩
    | cons op ops ih =>
        obtain ⟨rest, hop, hrest⟩ := scanOperations_eq_cons_iff.mp h
        obtain ⟨t, hdenotes, -, rfl⟩ := reads_iff.mp hop
        obtain ⟨tokens, rfl, hspells⟩ := ih hrest
        exact ⟨t :: tokens, rfl, .cons hdenotes hspells⟩
  · rintro ⟨tokens, rfl, h⟩
    exact scanOperations_of_spells h

/-! ## One reading -/

namespace Token

/-- A token of digits and letters in their places, whatever they stand for. -/
def IsShaped : Token → Prop
  | offset _ digits word => (∀ c ∈ digits, c.isDigit = true) ∧ IsLetters word
  | round word => IsLetters word

theorem Denotes.isShaped {t : Token} (h : t.Denotes op) : t.IsShaped := by
  cases h with
  | offset hdigits hword _ => exact ⟨hdigits.isDigit, hword.isLetters⟩
  | round hword => exact hword.isLetters

theorem IsShaped.unique {t t' : Token} (h : t.IsShaped) (h' : t'.IsShaped)
    (hrest : Text.Stops Char.isAlpha rest) (hrest' : Text.Stops Char.isAlpha rest')
    (htext : t.text ++ rest = t'.text ++ rest') : t = t' ∧ rest = rest' := by
  cases t with
  | round word =>
      cases t' with
      | round word' =>
          obtain ⟨rfl, rfl⟩ := Text.run_unique h.isAlpha hrest h'.isAlpha hrest'
            (List.cons.inj htext).2
          exact ⟨rfl, rfl⟩
      | offset sign' digits' word' =>
          exact absurd (List.cons.inj htext).1.symm (mark_ne_slash sign')
  | offset sign digits word =>
      cases t' with
      | round word' => exact absurd (List.cons.inj htext).1 (mark_ne_slash sign)
      | offset sign' digits' word' =>
          simp only [text, List.cons_append, List.append_assoc] at htext
          obtain ⟨hmark, hafter⟩ := List.cons.inj htext
          obtain rfl := mark_injective hmark
          obtain ⟨rfl, hwords⟩ := Text.run_unique h.1 h.2.stops h'.1 h'.2.stops hafter
          obtain ⟨rfl, rfl⟩ := Text.run_unique h.2.isAlpha hrest h'.2.isAlpha hrest' hwords
          exact ⟨rfl, rfl⟩

end Token

/-- A text is one of tokens in one way at most. -/
theorem tokensText_injective {tokens tokens' : List Token} (h : ∀ t ∈ tokens, t.IsShaped)
    (h' : ∀ t ∈ tokens', t.IsShaped) (htext : tokensText tokens = tokensText tokens') :
    tokens = tokens' := by
  have hne : ∀ (t : Token) (tokens : List Token), tokensText (t :: tokens) ≠ [] := by
    intro t tokens
    cases t <;> exact List.cons_ne_nil _ _
  induction tokens generalizing tokens' with
  | nil =>
      cases tokens' with
      | nil => rfl
      | cons t' tokens' => exact absurd htext.symm (hne t' tokens')
  | cons t tokens ih =>
      cases tokens' with
      | nil => exact absurd htext (hne t tokens)
      | cons t' tokens' =>
          obtain ⟨ht, htokens⟩ := List.forall_mem_cons.mp h
          obtain ⟨ht', htokens'⟩ := List.forall_mem_cons.mp h'
          obtain ⟨rfl, hafter⟩ :=
            ht.unique ht' (stops_tokensText tokens) (stops_tokensText tokens') htext
          rw [ih htokens htokens' hafter]

theorem Spells.isShaped {tokens : List Token} (h : Spells tokens ops) :
    ∀ t ∈ tokens, t.IsShaped := by
  induction h with
  | nil => exact nofun
  | cons hdenotes _ ih => exact List.forall_mem_cons.mpr ⟨hdenotes.isShaped, ih⟩

/-! ## The statement -/

/-- A text is read as operations exactly if it is one of tokens that spell them.  It is so in one
way at most, and so it has one reading at most; and a text that is none of tokens is refused as
malformed date math. -/
theorem readOperations_grammar :
    (∀ text ops, readOperations text = .ok ops ↔
      ∃ tokens, tokensText tokens = text ∧ Spells tokens ops) ∧
      (∀ tokens tokens' ops ops', Spells tokens ops → Spells tokens' ops' →
        tokensText tokens = tokensText tokens' → tokens = tokens' ∧ ops = ops') ∧
      ∀ text, (∀ tokens ops, Spells tokens ops → tokensText tokens ≠ text) →
        ∃ span message,
          readOperations text = .error (.malformedMath (String.ofList text) span message) := by
  have hread : ∀ text ops, readOperations text = .ok ops ↔
      ∃ tokens, tokensText tokens = text ∧ Spells tokens ops := by
    intro text ops
    rw [readOperations, mapError_eq_ok, scanOperations_iff_spells]
  refine ⟨hread, ?_, ?_⟩
  · intro tokens tokens' ops ops' h h' htext
    obtain rfl := tokensText_injective h.isShaped h'.isShaped htext
    have hops := (scanOperations_of_spells h).symm.trans (scanOperations_of_spells h')
    exact ⟨rfl, Except.ok.inj hops⟩
  · intro text hno
    cases hfault : readOperations text with
    | ok ops =>
        obtain ⟨tokens, htext, h⟩ := (hread text ops).mp hfault
        exact absurd htext (hno tokens ops h)
    | error fault =>
        obtain ⟨slip, -, rfl⟩ := mapError_eq_error.mp hfault
        exact ⟨_, _, rfl⟩

/-- An amount with zeros in front that just fits, and one that is one too great. -/
theorem readOperations_grammar_greatest :
    (∃ tokens, tokensText tokens = "-009223372036854775807dAtEs/Millis".toList ∧
        Spells tokens [.offset .day (-9223372036854775807), .round .millisecond] ∧
        ∀ tokens' ops', Spells tokens' ops' →
          tokensText tokens' = "-009223372036854775807dAtEs/Millis".toList → tokens' = tokens) ∧
      ∃ span message, readOperations "+9223372036854775808DAY".toList
        = .error (.malformedMath "+9223372036854775808DAY" span message) := by
  obtain ⟨hgrammar, hunique, hrefused⟩ := readOperations_grammar
  have hread : readOperations "-009223372036854775807dAtEs/Millis".toList
      = .ok [.offset .day (-9223372036854775807), .round .millisecond] :=
    toOption_eq_some.mp (by decide +kernel)
  have hnone : (readOperations "+9223372036854775808DAY".toList).toOption = none := by
    decide +kernel
  obtain ⟨tokens, htext, hspells⟩ := (hgrammar _ _).mp hread
  refine ⟨⟨tokens, htext, hspells, ?_⟩, hrefused _ ?_⟩
  · intro tokens' ops' h htext'
    exact (hunique tokens' tokens ops' _ h hspells (htext'.trans htext.symm)).1
  · intro tokens' ops h htext'
    have hops := toOption_eq_some.mpr ((hgrammar _ _).mpr ⟨tokens', htext', h⟩)
    rw [hnone] at hops
    cases hops

end Almanac.DateMath
