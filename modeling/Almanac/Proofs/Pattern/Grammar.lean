import Almanac.Proofs.Pattern.Faults
import Almanac.Proofs.Pattern.Template
/-!
# The language of patterns

`Says` reads a pattern from the left: two quotes are one, any other quote opens or closes a section,
what is in a section or is no letter is literal, and a letter outside is the first of a run that is
as long as it can be.  Every pattern says one list of parts (`says_iff`).

The compiler finds the parts from the other end, and lets a run grow to the left a letter at a time.
Both come to the same, because a run that stands in front of the parts found so far begins the text
that is left (`head_of_partsFrom`): no quote is between it and the next letter, for a section with
nothing in it would be two quotes.

A part that is no item is blamed where it stands, and the first one before all others (`Blamed`).
Templates are not to blame: what cannot be translated is no part of a pattern.
-/

namespace Almanac.Pattern

variable {pattern cs rest : List Char} {quote : Option (List Char)} {letter c : Char} {count : Nat}
  {parts : List Part} {part : Part} {items : List Item} {p : Pattern} {fault : Fault}

/-! ## Reading from the left -/

/-- A text says parts, outside quotes or in a section; `opened` is what was left of the pattern where
the section opened. -/
inductive Says : Option (List Char) → List Char → List Part → Prop
  | nil : Says none [] []
  | unclosed {opened : List Char} : Says (some opened) [] [.unclosed opened]
  /-- Two quotes are one, inside and outside. -/
  | quotes {quote : Option (List Char)} {cs : List Char} {parts : List Part} :
      Says quote cs parts → Says quote ('\'' :: '\'' :: cs) (.literal '\'' :: parts)
  | opens {cs : List Char} {parts : List Part} : cs.head? ≠ some '\'' →
      Says (some ('\'' :: cs)) cs parts → Says none ('\'' :: cs) parts
  | closes {opened cs : List Char} {parts : List Part} : cs.head? ≠ some '\'' →
      Says none cs parts → Says (some opened) ('\'' :: cs) parts
  | inside {opened cs : List Char} {c : Char} {parts : List Part} : c ≠ '\'' →
      Says (some opened) cs parts → Says (some opened) (c :: cs) (.literal c :: parts)
  | outside {cs : List Char} {c : Char} {parts : List Part} : c ≠ '\'' → c.isAlpha = false →
      Says none cs parts → Says none (c :: cs) (.literal c :: parts)
  /-- A run takes all of its letter that there is. -/
  | run {text cs : List Char} {letter : Char} {count : Nat} {parts : List Part} :
      letter.isAlpha = true → 0 < count → cs.head? ≠ some letter →
        text = List.replicate count letter ++ cs → Says none cs parts →
          Says none text (.run letter count text :: parts)

theorem ne_quote_of_isAlpha (h : c.isAlpha = true) : c ≠ '\'' := by
  rintro rfl
  exact absurd h (by decide)

theorem not_quotes (h : cs.head? ≠ some '\'') : ∀ rest, c = '\'' → cs = '\'' :: rest → False := by
  rintro rest - rfl
  exact h rfl

theorem head?_ne_quote (h : ∀ rest, c = '\'' → cs = '\'' :: rest → False) (hc : c = '\'') :
    cs.head? ≠ some '\'' := by
  intro hhead
  obtain ⟨rest, hrest⟩ := List.head?_eq_some_iff.mp hhead
  exact h rest hc hrest

/-- Parts that begin with a run are those of a text that begins with its letter. -/
theorem head_of_partsFrom (hquote : quote ≠ none → cs.head? ≠ some '\'')
    (h : partsFrom quote cs = .run letter count rest :: parts) :
    quote = none ∧ cs.head? = some letter := by
  induction quote, cs using partsFrom.induct with
  | case1 quote =>
      cases quote with
      | none => cases h
      | some opened => cases h
  | case2 quote cs _ =>
      rw [partsFrom] at h
      cases h
  | case3 cs hquotes ih =>
      -- the section that opens here has something in it, and that is no run
      rw [partsFrom_cons hquotes, if_pos rfl] at h
      cases (ih (fun _ => head?_ne_quote hquotes rfl) h).1
  | case4 cs opened _ _ => exact absurd rfl (hquote (Option.some_ne_none opened))
  | case5 quote c cs hquotes hc hletter _ =>
      rw [partsFrom_cons hquotes, if_neg hc, if_pos hletter] at h
      refine ⟨hletter.1, ?_⟩
      unfold addLetter at h
      split at h
      · split at h
        · cases h
          rfl
        · cases h
          rfl
      · cases h
        rfl
  | case6 quote c cs hquotes hc hletter _ =>
      rw [partsFrom_cons hquotes, if_neg hc, if_neg hletter] at h
      cases h

theorem addLetter_of_head (h : cs.head? ≠ some letter) :
    addLetter letter rest (partsFrom none cs) = .run letter 1 rest :: partsFrom none cs := by
  cases hparts : partsFrom none cs with
  | nil => rfl
  | cons part parts =>
      cases part with
      | literal c => rfl
      | unclosed opened => rfl
      | run other count after =>
          have hother := (head_of_partsFrom (fun hne => absurd rfl hne) hparts).2
          have hne : other ≠ letter := by
            rintro rfl
            exact h hother
          simp only [addLetter, if_neg hne]

theorem partsFrom_letter (h : letter.isAlpha = true) :
    partsFrom none (letter :: cs) = addLetter letter (letter :: cs) (partsFrom none cs) := by
  have hne := ne_quote_of_isAlpha h
  rw [partsFrom_cons (fun _ hquote => absurd hquote hne), if_neg hne, if_pos ⟨rfl, h⟩]

/-- A run grows to its full length. -/
theorem partsFrom_run (h : letter.isAlpha = true) (hrest : rest.head? ≠ some letter)
    (count : Nat) :
    partsFrom none (List.replicate (count + 1) letter ++ rest)
      = .run letter (count + 1) (List.replicate (count + 1) letter ++ rest)
        :: partsFrom none rest := by
  induction count with
  | zero => exact (partsFrom_letter h).trans (addLetter_of_head hrest)
  | succ count ih =>
      rw [List.replicate_succ, List.cons_append, partsFrom_letter h, ih]
      simp only [addLetter, if_pos]

theorem Says.eq_partsFrom (h : Says quote cs parts) : parts = partsFrom quote cs := by
  induction h with
  | nil => rfl
  | unclosed => rfl
  | quotes _ ih => rw [partsFrom, ih]
  | opens hhead _ ih => rw [partsFrom_cons (not_quotes hhead), if_pos rfl, ih]
  | closes hhead _ ih => rw [partsFrom_cons (not_quotes hhead), if_pos rfl, ih]
  | inside hc _ ih =>
      rw [partsFrom_cons (fun _ hquote => absurd hquote hc), if_neg hc, if_neg, ih]
      rintro ⟨h, -⟩
      cases h
  | outside hc hletter _ ih =>
      rw [partsFrom_cons (fun _ hquote => absurd hquote hc), if_neg hc, if_neg, ih]
      rintro ⟨-, h⟩
      exact absurd (hletter.symm.trans h) Bool.false_ne_true
  | run hletter hcount hhead htext _ ih =>
      obtain ⟨count, rfl⟩ := Nat.exists_eq_succ_of_ne_zero (Nat.ne_of_gt hcount)
      rw [htext, partsFrom_run hletter hhead, ih]

/-- What begins with a letter says the whole of its run first. -/
theorem Says.exists_run (h : Says none cs parts) (hhead : cs.head? = some letter)
    (hletter : letter.isAlpha = true) :
    ∃ count tail parts', cs = List.replicate count letter ++ tail ∧ tail.head? ≠ some letter ∧
      Says none tail parts' ∧ parts = .run letter count cs :: parts' := by
  cases h with
  | nil => cases hhead
  | quotes h =>
      cases hhead
      exact absurd rfl (ne_quote_of_isAlpha hletter)
  | opens hquote h =>
      cases hhead
      exact absurd rfl (ne_quote_of_isAlpha hletter)
  | outside hc hother h =>
      cases hhead
      exact absurd (hother.symm.trans hletter) Bool.false_ne_true
  | @run _ tail other count parts' hother hcount hmax htext h =>
      obtain ⟨count, rfl⟩ := Nat.exists_eq_succ_of_ne_zero (Nat.ne_of_gt hcount)
      obtain rfl : other = letter := by
        rw [htext] at hhead
        exact Option.some.inj hhead
      exact ⟨count + 1, tail, parts', htext, hmax, h, rfl⟩

theorem Says.letter_cons (h : Says none cs parts) (hletter : letter.isAlpha = true) :
    Says none (letter :: cs) (addLetter letter (letter :: cs) parts) := by
  by_cases hhead : cs.head? = some letter
  · -- the run that begins what is left takes in one letter more
    obtain ⟨count, tail, parts', hcs, hmax, htail, rfl⟩ := h.exists_run hhead hletter
    rw [addLetter, if_pos rfl]
    exact .run hletter count.succ_pos hmax (congrArg (letter :: ·) hcs) htail
  · rw [h.eq_partsFrom, addLetter_of_head hhead, ← h.eq_partsFrom]
    exact .run hletter Nat.one_pos hhead rfl h

theorem says_partsFrom (quote : Option (List Char)) (cs : List Char) :
    Says quote cs (partsFrom quote cs) := by
  induction quote, cs using partsFrom.induct with
  | case1 quote =>
      cases quote with
      | none => exact .nil
      | some opened => exact .unclosed
  | case2 quote cs ih =>
      rw [partsFrom]
      exact .quotes ih
  | case3 cs hquotes ih =>
      rw [partsFrom_cons hquotes, if_pos rfl]
      exact .opens (head?_ne_quote hquotes rfl) ih
  | case4 cs opened hquotes ih =>
      rw [partsFrom_cons hquotes, if_pos rfl]
      exact .closes (head?_ne_quote hquotes rfl) ih
  | case5 quote c cs hquotes hc hletter ih =>
      rw [partsFrom_cons hquotes, if_neg hc, if_pos hletter]
      obtain ⟨rfl, hletter⟩ := hletter
      exact ih.letter_cons hletter
  | case6 quote c cs hquotes hc hletter ih =>
      rw [partsFrom_cons hquotes, if_neg hc, if_neg hletter]
      cases quote with
      | none =>
          exact .outside hc (Bool.eq_false_iff.mpr fun h => hletter ⟨rfl, h⟩) ih
      | some opened => exact .inside hc ih

/-- Every text says one list of parts, and that is what the compiler finds. -/
theorem says_iff : Says quote cs parts ↔ parts = partsFrom quote cs := by
  constructor
  · exact Says.eq_partsFrom
  · rintro rfl
    exact says_partsFrom quote cs

/-- A text has a run where `rest` is left of it. -/
structure HasRun (text : List Char) (letter : Char) (count : Nat) (rest : List Char) : Prop where
  isAlpha : letter.isAlpha = true
  suffix : rest <:+ text
  letters : ∃ after, rest = List.replicate count letter ++ after

theorem HasRun.mono {text : List Char} (h : HasRun cs letter count rest) (htext : cs <:+ text) :
    HasRun text letter count rest :=
  ⟨h.isAlpha, h.suffix.trans htext, h.letters⟩

theorem Says.hasRun (h : Says quote cs parts) (hmem : .run letter count rest ∈ parts) :
    HasRun cs letter count rest := by
  induction h with
  | nil => cases hmem
  | unclosed => cases List.mem_singleton.mp hmem
  | @quotes _ cs _ _ ih =>
      rcases List.mem_cons.mp hmem with h | hmem
      · cases h
      · exact (ih hmem).mono (List.suffix_append ['\'', '\''] cs)
  | opens _ _ ih | closes _ _ ih => exact (ih hmem).mono (List.suffix_cons _ _)
  | inside _ _ ih | outside _ _ _ ih =>
      rcases List.mem_cons.mp hmem with h | hmem
      · cases h
      · exact (ih hmem).mono (List.suffix_cons _ _)
  | @run _ tail _ _ _ hother _ _ htext _ ih =>
      rcases List.mem_cons.mp hmem with h | hmem
      · cases h
        exact ⟨hother, List.suffix_refl _, tail, htext⟩
      · exact (ih hmem).mono (htext ▸ List.suffix_append _ _)

/-! ## Parts that are items -/

/-- A part that is an item of a pattern. -/
def Part.IsItem : Part → Prop
  | .literal _ => True
  | .run letter count _ => IsField letter count
  | .unclosed _ => False

/-- The calendar unit that a part spells out. -/
def Part.unit? : Part → Option CalendarUnit
  | .run letter _ _ => unitOf? letter
  | .literal _ | .unclosed _ => none

theorem item_run_eq_ok {item : Item} :
    (Part.run letter count rest).item = .ok item ↔
      ∃ f, Names letter count f ∧ item = .field f := by
  rw [Part.item]
  constructor
  · intro h
    split at h
    · next f hf =>
      cases h
      exact ⟨f, names_iff.mpr hf, rfl⟩
    · cases h
  · rintro ⟨f, hf, rfl⟩
    rw [hf.ofRun?]

theorem item_run_eq_error {slip : Slip} :
    (Part.run letter count rest).item = .error slip ↔
      ¬ IsField letter count ∧ slip = ⟨rest, count, .ofRun letter⟩ := by
  rw [Part.item]
  constructor
  · intro h
    split at h
    · cases h
    · next hnone =>
      cases h
      refine ⟨fun hfield => ?_, rfl⟩
      obtain ⟨f, hf⟩ := exists_names hfield
      cases hf.ofRun?.symm.trans hnone
  · rintro ⟨hfield, rfl⟩
    split
    · next f hf => exact absurd (isField_of_ofRun? hf) hfield
    · rfl

theorem exists_item_iff : (∃ item, part.item = .ok item) ↔ part.IsItem := by
  cases part with
  | literal c => exact ⟨fun _ => trivial, fun _ => ⟨_, rfl⟩⟩
  | unclosed opened =>
      constructor
      · rintro ⟨item, h⟩
        cases h
      · exact False.elim
  | run letter count rest =>
      constructor
      · rintro ⟨item, h⟩
        obtain ⟨f, hf, -⟩ := item_run_eq_ok.mp h
        exact isField_of_ofRun? hf.ofRun?
      · intro h
        obtain ⟨f, hf⟩ := exists_names h
        exact ⟨.field f, item_run_eq_ok.mpr ⟨f, hf, rfl⟩⟩

theorem exists_items_iff :
    (∃ items, parts.mapM Part.item = .ok items) ↔ ∀ part ∈ parts, part.IsItem :=
  exists_mapM_eq_ok.trans (forall₂_congr fun _ _ => exists_item_iff)

theorem unit?_of_item {item : Item} (h : part.item = .ok item) : item.unit? = part.unit? := by
  cases part with
  | literal c =>
      cases h
      rfl
  | unclosed opened => cases h
  | run letter count rest =>
      obtain ⟨f, hf, rfl⟩ := item_run_eq_ok.mp h
      exact hf.unit?_eq

theorem exists_unit_iff (h : parts.mapM Part.item = .ok items) (u : CalendarUnit) :
    (∃ item ∈ items, item.unit? = some u) ↔ ∃ part ∈ parts, part.unit? = some u := by
  constructor
  · rintro ⟨item, hitem, hu⟩
    obtain ⟨part, hpart, h⟩ := mem_of_mapM_eq_ok h hitem
    exact ⟨part, hpart, (unit?_of_item h).symm.trans hu⟩
  · rintro ⟨part, hpart, hu⟩
    obtain ⟨item, hitem, h⟩ := mem_of_forall₂ (mapM_eq_ok_iff.mp h) hpart
    exact ⟨item, hitem, (unit?_of_item h).trans hu⟩

/-! ## Compiling -/

theorem compile_of_items (h : (partsFrom none pattern).mapM Part.item = .ok items) :
    compile pattern =
      match finestUnit? items with
      | some precision => .ok ⟨pattern, items, precision⟩
      | none => .error (Slip.toFault ⟨pattern, Text.byteLength pattern, .noFields⟩ pattern) := by
  rw [compile, Pattern.parts, h]
  cases hfinest : finestUnit? items with
  | none =>
      simp only [Except.mapError, hfinest, bind, Except.bind]
      rfl
  | some precision =>
      simp only [Except.mapError, hfinest, bind, Except.bind,
        if_pos (isExpressible_of_fractionsFit (fractionsFit_of_parts h))]
      rfl

theorem compile_of_slip {slip : Slip} (h : (partsFrom none pattern).mapM Part.item = .error slip) :
    compile pattern = .error (slip.toFault pattern) := by
  rw [compile, Pattern.parts, h]
  rfl

theorem precision_of_compile (h : compile pattern = .ok p) :
    (∃ part ∈ partsFrom none pattern, part.unit? = some p.precision) ∧
      ∀ part ∈ partsFrom none pattern, ∀ u, part.unit? = some u → u ≤ p.precision := by
  obtain ⟨hitems, hfinest⟩ := items_of_compile h
  obtain ⟨hunit, hle⟩ := finestUnit?_eq_some hfinest
  refine ⟨(exists_unit_iff hitems p.precision).mp hunit, ?_⟩
  intro part hpart u hu
  obtain ⟨item, hitem, hu⟩ := (exists_unit_iff hitems u).mpr ⟨part, hpart, hu⟩
  exact hle item hitem u hu

theorem exists_compile_iff (pattern : List Char) :
    (∃ p, compile pattern = .ok p) ↔
      (∀ part ∈ partsFrom none pattern, part.IsItem) ∧
        ∃ part ∈ partsFrom none pattern, ∃ u, part.unit? = some u := by
  constructor
  · rintro ⟨p, h⟩
    obtain ⟨hitems, -⟩ := items_of_compile h
    obtain ⟨⟨part, hpart, hu⟩, -⟩ := precision_of_compile h
    exact ⟨exists_items_iff.mp ⟨p.items, hitems⟩, part, hpart, p.precision, hu⟩
  · rintro ⟨hall, part, hpart, u, hu⟩
    obtain ⟨items, hitems⟩ := exists_items_iff.mpr hall
    obtain ⟨item, hitem, hunit⟩ := (exists_unit_iff hitems u).mpr ⟨part, hpart, hu⟩
    rw [compile_of_items hitems]
    cases hfinest : finestUnit? items with
    | none => cases hunit.symm.trans (finestUnit?_eq_none.mp hfinest item hitem)
    | some precision => exact ⟨_, rfl⟩

/-! ## The first mistake -/

/-- The fault of a pattern that says these parts. -/
inductive Blamed (pattern : List Char) : List Part → Fault → Prop
  /-- A run that is no field is blamed from its first letter to its last. -/
  | run {before after : List Char} {letter : Char} {count : Nat} {front back : List Part} :
      pattern = before ++ (List.replicate count letter ++ after) →
      (∀ part ∈ front, part.IsItem) → ¬ IsField letter count →
      Blamed pattern (front ++ .run letter count (List.replicate count letter ++ after) :: back)
        (.badPattern (String.ofList pattern)
          ⟨Text.byteLength before,
            Text.byteLength before + Text.byteLength (List.replicate count letter)⟩
          (Problem.ofRun letter).message)
  /-- A quote that is never closed is blamed to the end of the pattern. -/
  | unclosed {before opened : List Char} {front back : List Part} :
      pattern = before ++ opened → (∀ part ∈ front, part.IsItem) →
      Blamed pattern (front ++ .unclosed opened :: back)
        (.badPattern (String.ofList pattern) ⟨Text.byteLength before, Text.byteLength pattern⟩
          Problem.unclosedQuote.message)
  /-- Where only fields are missing, the whole pattern is to blame. -/
  | noFields {parts : List Part} :
      (∀ part ∈ parts, part.IsItem) → (∀ part ∈ parts, part.unit? = none) →
      Blamed pattern parts
        (.badPattern (String.ofList pattern) ⟨0, Text.byteLength pattern⟩
          Problem.noFields.message)

theorem byteLength_replicate (hletter : letter.isAlpha = true) (count : Nat) :
    Text.byteLength (List.replicate count letter) = count := by
  have hsize : letter.utf8Size = 1 := by
    refine Text.utf8Size_eq_one ?_
    have := Text.isAlpha_iff.mp hletter
    omega
  induction count with
  | zero => rfl
  | succ count ih => rw [List.replicate_succ, Text.byteLength, hsize, ih, Nat.add_comm]

theorem toFault_append {before : List Char} {width : Nat} {problem : Problem}
    (h : pattern = before ++ rest) :
    Slip.toFault ⟨rest, width, problem⟩ pattern =
      .badPattern (String.ofList pattern)
        ⟨Text.byteLength before, Text.byteLength before + width⟩ problem.message := by
  simp only [Slip.toFault, Slip.span, Text.byteLength_sub h]

/-- A slip is the first part that is no item. -/
theorem blamed_of_slip {slip : Slip} (h : (partsFrom none pattern).mapM Part.item = .error slip) :
    Blamed pattern (partsFrom none pattern) (slip.toFault pattern) := by
  obtain ⟨front, part, back, hparts, hfront, hslip⟩ := mapM_eq_error_iff.mp h
  have hfront : ∀ part ∈ front, part.IsItem :=
    fun part hpart => exists_item_iff.mp (hfront part hpart)
  have hmem : part ∈ partsFrom none pattern := hparts ▸ List.mem_append_cons_self
  rw [hparts]
  cases part with
  | literal c => cases hslip
  | run letter count rest =>
      obtain ⟨hfield, rfl⟩ := item_run_eq_error.mp hslip
      obtain ⟨hletter, ⟨before, hpattern⟩, after, rfl⟩ := (says_partsFrom none pattern).hasRun hmem
      have hfault : Blamed pattern (front ++ .run letter count _ :: back) _ :=
        .run hpattern.symm hfront hfield
      rw [byteLength_replicate hletter] at hfault
      rwa [toFault_append hpattern.symm]
  | unclosed opened =>
      cases hslip
      rcases partsFrom_lies none pattern _ hmem with ⟨before, hpattern⟩ | ⟨_, hquote, -⟩
      · have hfault : Blamed pattern (front ++ .unclosed opened :: back) _ :=
          .unclosed hpattern.symm hfront
        rw [toFault_append hpattern.symm, ← Text.byteLength_append, hpattern]
        exact hfault
      · cases hquote

theorem blamed_of_compile (h : compile pattern = .error fault) :
    Blamed pattern (partsFrom none pattern) fault := by
  cases hitems : (partsFrom none pattern).mapM Part.item with
  | error slip =>
      cases (compile_of_slip hitems).symm.trans h
      exact blamed_of_slip hitems
  | ok items =>
      rw [compile_of_items hitems] at h
      split at h
      · cases h
      · next hfinest =>
        cases h
        rw [toFault_append (List.nil_append pattern).symm, Text.byteLength, Nat.zero_add]
        refine .noFields (exists_items_iff.mp ⟨items, hitems⟩) (fun part hpart => ?_)
        obtain ⟨item, hitem, hunit⟩ := mem_of_forall₂ (mapM_eq_ok_iff.mp hitems) hpart
        exact (unit?_of_item hunit).symm.trans (finestUnit?_eq_none.mp hfinest item hitem)

theorem compile_of_blamed (h : Blamed pattern (partsFrom none pattern) fault) :
    compile pattern = .error fault := by
  generalize hparts : partsFrom none pattern = parts at h
  cases h with
  | @run before after letter count front back hpattern hfront hfield =>
      have hslip : (partsFrom none pattern).mapM Part.item
          = .error ⟨List.replicate count letter ++ after, count, .ofRun letter⟩ := by
        refine mapM_eq_error_iff.mpr ⟨front, _, back, hparts, fun part hpart => ?_, ?_⟩
        · exact exists_item_iff.mpr (hfront part hpart)
        · exact item_run_eq_error.mpr ⟨hfield, rfl⟩
      have hrun := (says_partsFrom none pattern).hasRun (hparts ▸ List.mem_append_cons_self)
      rw [compile_of_slip hslip, toFault_append hpattern, byteLength_replicate hrun.isAlpha]
  | @unclosed before opened front back hpattern hfront =>
      have hslip : (partsFrom none pattern).mapM Part.item
          = .error ⟨opened, Text.byteLength opened, .unclosedQuote⟩ :=
        mapM_eq_error_iff.mpr ⟨front, _, back, hparts,
          fun part hpart => exists_item_iff.mpr (hfront part hpart), rfl⟩
      rw [compile_of_slip hslip, toFault_append hpattern, ← Text.byteLength_append, ← hpattern]
  | noFields hall hnone =>
      subst hparts
      obtain ⟨items, hitems⟩ := exists_items_iff.mpr hall
      have hfinest : finestUnit? items = none := by
        refine finestUnit?_eq_none.mpr fun item hitem => ?_
        obtain ⟨part, hpart, h⟩ := mem_of_mapM_eq_ok hitems hitem
        exact (unit?_of_item h).trans (hnone part hpart)
      rw [compile_of_items hitems, hfinest]
      show Except.error (Slip.toFault _ pattern) = _
      rw [toFault_append (List.nil_append pattern).symm, Text.byteLength, Nat.zero_add]

/-! ## The language -/

/-- Every pattern says one list of parts.  It compiles if they all are items and one spells out a
unit, and its precision is the finest one; otherwise the first mistake is blamed.  That templates
cannot express it is never a reason: in the templates of items nothing is unknown. -/
theorem compile_language (pattern : List Char) :
    ∃ parts, (∀ other, Says none pattern other ↔ other = parts) ∧
      ((∃ p, compile pattern = .ok p) ↔
        (∀ part ∈ parts, part.IsItem) ∧ ∃ part ∈ parts, ∃ u, part.unit? = some u) ∧
      (∀ p, compile pattern = .ok p →
        (∃ part ∈ parts, part.unit? = some p.precision) ∧
          ∀ part ∈ parts, ∀ u, part.unit? = some u → u ≤ p.precision) ∧
      (∀ fault, compile pattern = .error fault ↔ Blamed pattern parts fault) ∧
      ∀ items, parts.mapM Part.item = .ok items →
        ∀ use, .unknown ∉ Template.pieces none (template use items) := by
  refine ⟨partsFrom none pattern, fun _ => says_iff, exists_compile_iff pattern,
    fun p => precision_of_compile, fun fault => ⟨blamed_of_compile, compile_of_blamed⟩, ?_⟩
  intro items hitems use
  exact unknown_not_mem_template (fractionsFit_of_parts hitems) use

/-- The letter in front takes two bytes, the quotes of the section one each. -/
theorem compile_language_three_days :
    compile "é'T''dddd'ddd''".toList
      = .error (.badPattern "é'T''dddd'ddd''" ⟨11, 14⟩ "too many 'd' letters") := by
  obtain ⟨parts, hunique, -, -, hfault, -⟩ := compile_language "é'T''dddd'ddd''".toList
  have hparts : List.map Part.literal "éT'dddd".toList
      ++ .run 'd' 3 (List.replicate 3 'd' ++ ['\'', '\'']) :: [.literal '\''] = parts := by
    refine (hunique _).mp ?_
    refine .outside (by decide) (by decide) (.opens (by decide) ?_)
    refine .inside (by decide) (.quotes ?_)
    iterate 4 refine .inside (by decide) ?_
    refine .closes (by decide) (.run (by decide) (by decide) ?_ rfl (.quotes .nil))
    decide
  refine (hfault _).mpr (hparts ▸ ?_)
  refine @Blamed.run _ "é'T''dddd'".toList _ _ _ _ _ rfl ?_ ?_
  · intro part hpart
    obtain ⟨c, -, rfl⟩ := List.mem_map.mp hpart
    trivial
  · unfold IsField
    decide

end Almanac.Pattern
