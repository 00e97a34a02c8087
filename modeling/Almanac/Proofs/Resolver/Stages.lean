import Almanac.Proofs.DateMath.Anchor
import Almanac.Resolver
/-!
# The stages of resolution

A text is resolved by the first stage that accepts it, and `Resolves` says which stage that was and
what it gave (`resolveText_eq_ok_iff`).  The display format and the bare integers do not look at the
present at all.  Date math and bare integers never compete, because a bare integer has neither an
`N` nor a `Z` in it (`read_of_word?`); so a text that date math has once read is never a number
later, whatever becomes of its value.
-/

namespace Almanac

/-! ## Bare integers are not date math -/

namespace Text

/-- A run of digits with an optional sign, and the integer that it stands for. -/
inductive IsNumber : List Char → Int → Prop
  | unsigned {digits : List Char} : digits ≠ [] → (∀ c ∈ digits, c.isDigit = true) →
      IsNumber digits (number digits)
  | plus {digits : List Char} : digits ≠ [] → (∀ c ∈ digits, c.isDigit = true) →
      IsNumber ('+' :: digits) (number digits)
  | minus {digits : List Char} : digits ≠ [] → (∀ c ∈ digits, c.isDigit = true) →
      IsNumber ('-' :: digits) (-(number digits : Int))

variable {cs : List Char} {value : Int}

theorem natural?_eq_some_iff {n : Nat} :
    natural? cs = some n ↔ cs ≠ [] ∧ (∀ c ∈ cs, c.isDigit = true) ∧ number cs = n := by
  simp only [natural?, Option.ite_none_right_eq_some, Option.some.injEq, List.all_eq_true,
    and_assoc]

theorem integer?_eq_some_iff : integer? cs = some value ↔ IsNumber cs value := by
  constructor
  · intro h
    unfold integer? at h
    split at h
    all_goals
      obtain ⟨k, hk, rfl⟩ := Option.map_eq_some_iff.mp h
      obtain ⟨n, hn, hk⟩ := Option.bind_eq_some_iff.mp hk
      obtain ⟨hne, hdigits, rfl⟩ := natural?_eq_some_iff.mp hn
      cases hk
    · exact .minus hne hdigits
    · exact .plus hne hdigits
    · exact .unsigned hne hdigits
  · intro h
    cases h with
    | plus hne hdigits => simp [integer?, natural?_eq_some_iff.mpr ⟨hne, hdigits, rfl⟩]
    | minus hne hdigits => simp [integer?, natural?_eq_some_iff.mpr ⟨hne, hdigits, rfl⟩]
    | unsigned hne hdigits =>
        unfold integer?
        split
        · cases hdigits '-' List.mem_cons_self
        · cases hdigits '+' List.mem_cons_self
        · simp [natural?_eq_some_iff.mpr ⟨hne, hdigits, rfl⟩]

theorem IsNumber.mem (h : IsNumber cs value) : ∀ c ∈ cs, c = '-' ∨ c = '+' ∨ c.isDigit = true := by
  cases h with
  | unsigned _ hdigits => exact fun c hc => Or.inr (Or.inr (hdigits c hc))
  | plus _ hdigits =>
      exact List.forall_mem_cons.mpr
        ⟨Or.inr (Or.inl rfl), fun c hc => Or.inr (Or.inr (hdigits c hc))⟩
  | minus _ hdigits =>
      exact List.forall_mem_cons.mpr ⟨Or.inl rfl, fun c hc => Or.inr (Or.inr (hdigits c hc))⟩

theorem word?_eq_some_iff {w : Int64} : word? cs = some w ↔ IsNumber cs w.toInt := by
  simp only [word?, Option.bind_eq_some_iff, integer?_eq_some_iff, Word.fit?_eq_some_iff,
    exists_eq_right']

end Text

namespace DateMath

/-- A number is no date math, whether or not a word can hold it. -/
theorem read_of_isNumber {cs : List Char} {value : Int} (h : Text.IsNumber cs value) :
    read cs = .ok none := by
  refine read_eq_none fun c hc => ?_
  obtain ⟨d, hd, rfl⟩ := List.mem_map.mp hc
  rcases h.mem d hd with rfl | rfl | hdigit
  · decide
  · decide
  · rw [Text.toUpper_of_isDigit hdigit]
    exact ⟨Text.isDigit_ne hdigit (by decide), Text.isDigit_ne hdigit (by decide)⟩

theorem read_of_word? {cs : List Char} {w : Int64} (h : Text.word? cs = some w) :
    read cs = .ok none :=
  read_of_isNumber (Text.word?_eq_some_iff.mp h)

/-! ## The value of date math -/

variable {p : Parsed} {rounding : Rounding}

theorem Parsed.value_now (hnow : p.expression.anchor = .now) (now : Instant) :
    p.value now rounding = evaluate rounding now p.expression.operations := by
  unfold Parsed.value
  rw [hnow]
  cases rounding <;> rfl

theorem Parsed.value_literal (h : p.expression.anchor ≠ .now) (now now' : Instant) :
    p.value now rounding = p.value now' rounding := by
  unfold Parsed.value
  cases hanchor : p.expression.anchor with
  | now => exact absurd hanchor h
  | literal start => cases rounding <;> cases p.expression.operations <;> rfl

end DateMath

/-! ## What each stage gives -/

namespace Resolver

variable {r : Resolver} {text : List Char} {now : Instant} {rounding : Rounding} {i : Instant}

theorem byLayout_eq_ok_iff :
    r.byLayout text rounding = .ok i ↔
      ∃ reading, r.layout.read text = .ok reading ∧ reading.widen rounding = .ok i :=
  bind_eq_ok

theorem byDateMath_eq_ok_iff :
    byDateMath text now rounding = .ok (some i) ↔
      ∃ p, DateMath.read text = .ok (some p) ∧ p.value now rounding = .ok i := by
  unfold byDateMath
  rw [bind_eq_ok]
  constructor
  · rintro ⟨o, ho, hi⟩
    cases o with
    | none => simp only [pure_eq_ok, reduceCtorEq] at hi
    | some p =>
        obtain ⟨j, hj, hi⟩ := bind_eq_ok.mp hi
        simp only [pure_eq_ok, Option.some.injEq] at hi
        exact ⟨p, ho, hi ▸ hj⟩
  · rintro ⟨p, hp, hi⟩
    exact ⟨some p, hp, bind_eq_ok.mpr ⟨i, hi, rfl⟩⟩

theorem byScale?_eq_some {r : Resolver} (h : r.byScale? text = some i) :
    ∃ w, Text.word? text = some w := by
  obtain ⟨w, hw, -⟩ := Option.bind_eq_some_iff.mp h
  exact ⟨w, hw⟩

/-! ## Which stage it was -/

/-- What a text resolves to, by the first stage that accepts it. -/
inductive Resolves (r : Resolver) (text : List Char) (now : Instant) (rounding : Rounding) :
    Resolution → Prop
  | displayFormat {i : Instant} :
      r.byLayout text rounding = .ok i → Resolves r text now rounding ⟨i, .displayFormat⟩
  | dateMath {i : Instant} :
      (∀ j, r.byLayout text rounding ≠ .ok j) → byDateMath text now rounding = .ok (some i) →
        Resolves r text now rounding ⟨i, .dateMath⟩
  | numericFallback {i : Instant} :
      (∀ j, r.byLayout text rounding ≠ .ok j) → r.byScale? text = some i →
        Resolves r text now rounding ⟨i, .numericFallback⟩

theorem byNumber_eq_ok_iff {t : String} {cause : Fault} {res : Resolution} :
    afterLayout.byNumber r t cause = .ok res ↔
      ∃ i, r.byScale? t.toList = some i ∧ res = ⟨i, .numericFallback⟩ := by
  unfold afterLayout.byNumber
  cases r.byScale? t.toList with
  | none => simp
  | some i => simp [eq_comm]

theorem byDateMath_of_byScale? (h : r.byScale? text = some i) :
    byDateMath text now rounding = .ok none := by
  obtain ⟨w, hw⟩ := byScale?_eq_some h
  simp only [byDateMath, DateMath.read_of_word? hw]
  rfl

theorem resolveText_of_read {t : String} {p : DateMath.Parsed}
    (hno : ∀ j, r.byLayout t.toList rounding ≠ .ok j) (hp : DateMath.read t.toList = .ok (some p)) :
    r.resolveText t now rounding
      = ((p.value now rounding).map fun i => ⟨i, .dateMath⟩).mapError (r.unresolved t) := by
  obtain ⟨layoutFault, hlayout⟩ := exists_error_iff.mpr hno
  have hscale : r.byScale? t.toList = none := by
    cases hs : r.byScale? t.toList with
    | none => rfl
    | some i =>
        obtain ⟨w, hw⟩ := byScale?_eq_some hs
        cases (DateMath.read_of_word? hw).symm.trans hp
  simp only [resolveText, afterLayout, hlayout, byDateMath, hp]
  cases hvalue : p.value now rounding with
  | ok i =>
      simp only [bind, Except.bind, hvalue]
      rfl
  | error fault =>
      simp only [bind, Except.bind, hvalue, afterLayout.byNumber, hscale]
      rfl

theorem resolveText_of_unread {t : String} (hno : ∀ j, r.byLayout t.toList rounding ≠ .ok j)
    (hmath : DateMath.read t.toList = .ok none) :
    ∃ cause, r.resolveText t now rounding = afterLayout.byNumber r t cause := by
  obtain ⟨fault, hfault⟩ := exists_error_iff.mpr hno
  refine ⟨fault, ?_⟩
  simp only [resolveText, hfault, afterLayout, byDateMath, hmath]
  rfl

theorem resolveText_eq_ok_iff {t : String} {res : Resolution} :
    r.resolveText t now rounding = .ok res ↔ Resolves r t.toList now rounding res := by
  constructor
  · intro h
    unfold resolveText at h
    split at h
    · next i hi =>
      cases h
      exact .displayFormat hi
    · next fault hfault =>
      have hno : ∀ j, r.byLayout t.toList rounding ≠ .ok j := exists_error_iff.mp ⟨fault, hfault⟩
      unfold afterLayout at h
      split at h
      · next i hi =>
        cases h
        exact .dateMath hno hi
      -- a bare integer is tried both where the text is no date math and where that fails
      · obtain ⟨i, hi, rfl⟩ := byNumber_eq_ok_iff.mp h
        exact .numericFallback hno hi
      · obtain ⟨i, hi, rfl⟩ := byNumber_eq_ok_iff.mp h
        exact .numericFallback hno hi
  · intro h
    unfold resolveText
    cases h with
    | displayFormat hi => rw [hi]
    | dateMath hno hi =>
        obtain ⟨fault, hfault⟩ := exists_error_iff.mpr hno
        simp only [hfault, afterLayout, hi]
    | numericFallback hno hi =>
        obtain ⟨fault, hfault⟩ := exists_error_iff.mpr hno
        simp only [hfault, afterLayout, byDateMath_of_byScale? hi]
        exact byNumber_eq_ok_iff.mpr ⟨_, hi, rfl⟩

theorem resolve_of_text? {input : Input} {t : String} (h : input.text? = some t) :
    r.resolve input now rounding = r.resolveText t now rounding := by
  cases input with
  | number _ => cases h
  | bytes _ => cases h; rfl
  | text _ => cases h; rfl

end Resolver

end Almanac
