import Almanac.Proofs.DateMath.Grammar
/-!
# Operations are read back

Each operation is written as one token, with the sign of its amount, the digits of the amount
without it, and the word of its unit.  So a text of operations is one of tokens
(`tokensText_token`), and the grammar says what those are read as, which is the operations
themselves (`spells_token_iff`).

One amount is not read back: the least word.  It is written with the digits of 2^63, which is beyond
the greatest word, and digits are read before the sign counts.  A list is read back if that amount
is not in it (`scanOperations_operationsText`), and is refused otherwise (`scanOperations_refuses`),
for its text is one of tokens in no other way.
-/

namespace Almanac.DateMath

open Timestamp (Sign)

variable {op op' : Operation} {ops ops' : List Operation} {amount : Int64}

/-! ## Amounts -/

theorem apply_natAbs (amount : Int64) :
    (if amount.toInt < 0 then Sign.minus else Sign.plus).apply
      (Text.number (Text.decimal amount.toInt.natAbs)) = amount.toInt := by
  rw [Text.number_decimal]
  split
  · show -(amount.toInt.natAbs : Int) = amount.toInt
    omega
  · show (amount.toInt.natAbs : Int) = amount.toInt
    omega

/-- Every word but the least has an opposite. -/
theorem natAbs_le_greatest_iff :
    (amount.toInt.natAbs : Int) ≤ Word.greatest ↔ amount ≠ Int64.minValue := by
  have hfits := Word.fits_toInt amount
  have hleast : amount = Int64.minValue ↔ amount.toInt = Word.least := by
    rw [← Int64.toInt_inj, Int64.toInt_minValue]
    rfl
  rw [ne_eq, hleast]
  unfold Word.Fits at hfits
  unfold Word.least Word.greatest at *
  omega

theorem isAmount_decimal_iff :
    IsAmount (Text.decimal amount.toInt.natAbs) ↔ amount ≠ Int64.minValue := by
  rw [← natAbs_le_greatest_iff]
  constructor
  · intro h
    have hle := h.le_greatest
    rwa [Text.number_decimal] at hle
  · intro hle
    exact ⟨Text.decimal_ne_nil _, fun c => Text.isDigit_of_mem_decimal,
      by rwa [Text.number_decimal]⟩

/-! ## The token of an operation -/

namespace Operation

def token : Operation → Token
  | offset unit amount =>
      .offset (if amount.toInt < 0 then .minus else .plus) (Text.decimal amount.toInt.natAbs)
        unit.word.toList
  | round unit => .round unit.word.toList

theorem text_token (op : Operation) : op.token.text = op.text := by
  cases op with
  | round unit => rfl
  | offset unit amount =>
      simp only [token, Token.text, text, signed, apply_ite Sign.mark]
      rfl

end Operation

theorem tokensText_token (ops : List Operation) :
    tokensText (ops.map Operation.token) = operationsText ops := by
  simp only [tokensText, operationsText, List.flatMap_map, Operation.text_token]

theorem names_word_iff {unit unit' : CalendarUnit} :
    Names unit.word.toList unit' ↔ unit' = unit := by
  rw [names_iff, unit.ofWord?_word, Option.some.injEq]
  exact eq_comm

namespace Operation

theorem isShaped_token (op : Operation) : op.token.IsShaped := by
  cases op with
  | round unit => exact (names_word_iff.mpr rfl).isLetters
  | offset unit amount =>
      exact ⟨fun c => Text.isDigit_of_mem_decimal, (names_word_iff.mpr rfl).isLetters⟩

/-- The token of an operation spells that operation, unless its amount is the least word. -/
theorem denotes_token_iff :
    op.token.Denotes op' ↔ op' = op ∧ ∀ unit, op ≠ .offset unit Int64.minValue := by
  constructor
  · intro h
    cases op with
    | round unit =>
        cases h with
        | round hword => exact ⟨congrArg round (names_word_iff.mp hword), nofun⟩
    | offset unit amount =>
        cases h with
        | offset hdigits hword hvalue =>
            obtain rfl := Int64.toInt_inj.mp (hvalue.trans (apply_natAbs amount))
            obtain rfl := names_word_iff.mp hword
            refine ⟨rfl, fun unit heq => isAmount_decimal_iff.mp hdigits ?_⟩
            exact (offset.inj heq).2
  · rintro ⟨rfl, hne⟩
    cases op' with
    | round unit => exact .round (names_word_iff.mpr rfl)
    | offset unit amount =>
        refine .offset (isAmount_decimal_iff.mpr ?_) (names_word_iff.mpr rfl)
          (apply_natAbs amount).symm
        rintro rfl
        exact hne unit rfl

end Operation

/-! ## All operations -/

/-- Operations none of which has the least word as its amount. -/
def Readable (ops : List Operation) : Prop := ∀ unit, .offset unit Int64.minValue ∉ ops

theorem readable_cons :
    Readable (op :: ops) ↔ (∀ unit, op ≠ .offset unit Int64.minValue) ∧ Readable ops := by
  simp only [Readable, List.mem_cons, not_or, forall_and]
  exact and_congr_left fun _ => forall_congr' fun _ => ne_comm

theorem spells_token_iff : Spells (ops.map Operation.token) ops' ↔ ops' = ops ∧ Readable ops := by
  constructor
  · intro h
    induction ops generalizing ops' with
    | nil =>
        cases h
        exact ⟨rfl, fun _ => List.not_mem_nil⟩
    | cons op ops ih =>
        cases h with
        | cons hop hops =>
            obtain ⟨rfl, hne⟩ := Operation.denotes_token_iff.mp hop
            obtain ⟨rfl, hreadable⟩ := ih hops
            exact ⟨rfl, readable_cons.mpr ⟨hne, hreadable⟩⟩
  · rintro ⟨rfl, h⟩
    induction ops' with
    | nil => exact .nil
    | cons op ops ih =>
        obtain ⟨hne, hreadable⟩ := readable_cons.mp h
        exact .cons (Operation.denotes_token_iff.mpr ⟨rfl, hne⟩) (ih hreadable)

theorem scanOperations_operationsText (h : Readable ops) :
    scanOperations (operationsText ops) = .ok ops :=
  scanOperations_iff_spells.mpr ⟨_, tokensText_token ops, spells_token_iff.mpr ⟨rfl, h⟩⟩

theorem scanOperations_refuses (h : ¬ Readable ops) :
    ∀ ops', scanOperations (operationsText ops) ≠ .ok ops' := by
  intro ops' hscan
  obtain ⟨tokens, htext, hspells⟩ := scanOperations_iff_spells.mp hscan
  have hshaped : ∀ t ∈ ops.map Operation.token, t.IsShaped :=
    List.forall_mem_map.mpr fun op _ => op.isShaped_token
  obtain rfl := tokensText_injective hspells.isShaped hshaped
    (htext.trans (tokensText_token ops).symm)
  exact h (spells_token_iff.mp hspells).2

/-! ## The case of letters -/

theorem toUpper_of_mem_word (unit : CalendarUnit) : ∀ c ∈ unit.word.toList, c.toUpper = c := by
  have hall : unit.word.toList.all (fun c => decide (c.toUpper = c)) = true := by
    cases unit <;> decide
  exact fun c hc => of_decide_eq_true (List.all_eq_true.mp hall c hc)

/-- The sign that an amount is written with. -/
def signOf (amount : Int64) : Char := if amount.toInt < 0 then '-' else '+'

theorem signOf_cases (amount : Int64) : signOf amount = '+' ∨ signOf amount = '-' := by
  unfold signOf
  split
  · exact Or.inr rfl
  · exact Or.inl rfl

theorem toUpper_of_mem_text (op : Operation) : ∀ c ∈ op.text, c.toUpper = c := by
  cases op with
  | round unit => exact List.forall_mem_cons.mpr ⟨by decide, toUpper_of_mem_word unit⟩
  | offset unit amount =>
      have hsign : (signOf amount).toUpper = signOf amount := by
        rcases signOf_cases amount with h | h <;> rw [h] <;> decide
      exact List.forall_mem_append.mpr ⟨List.forall_mem_cons.mpr ⟨hsign, fun c hc =>
        Text.toUpper_of_isDigit (Text.isDigit_of_mem_decimal hc)⟩, toUpper_of_mem_word unit⟩

theorem upper_operationsText (ops : List Operation) :
    Text.upper (operationsText ops) = operationsText ops := by
  refine Text.upper_eq_self fun c hc => ?_
  obtain ⟨op, -, hc⟩ := List.mem_flatMap.mp hc
  exact toUpper_of_mem_text op c hc

end Almanac.DateMath
