import Almanac.Proofs.Json.Token
/-!
# Data values are read back from their text

The tokens of a text drive the machine that puts a value together, and a run of it (`Runs`) is
followed on the text itself: from the text that is left and the state of the machine to what is left
later and the state then.  Runs are put together end to end.  So the text of a list is run through
by running through its items, and by then the list is on the stack with the items before.

The induction is on a bound for the nesting and not on the value, because the machine refuses to
open more than `depthLimit` lists and records (`Fits`).  Values that hold others in at most so many
levels, and no numbers but integers of 64 bits, are read back from their text (`parse?_compact`).
-/

namespace Almanac.Json

variable {c : Char} {cs left rest : List Char} {j : Json} {stack : List Frame}
  {s s' s'' : Awaits × List Frame} {t : Token} {depth : Nat}

/-! ## Runs of the machine -/

/-- The machine goes from one text and state to another. -/
inductive Runs : List Char → Awaits × List Frame → List Char → Awaits × List Frame → Prop
  | done {rest : List Char} {s : Awaits × List Frame} : Runs rest s rest s
  | token {c : Char} {cs left rest : List Char} {t : Token} {s s' s'' : Awaits × List Frame} :
      isSeparator c = false → token? (c :: cs) = some (t, left) → left.length ≤ cs.length →
        step s t = some s' → Runs left s' rest s'' → Runs (c :: cs) s rest s''

theorem Runs.trans (h : Runs cs s left s') (h' : Runs left s' rest s'') : Runs cs s rest s'' := by
  induction h with
  | done => exact h'
  | token hc ht hle hstep _ ih => exact .token hc ht hle hstep (ih h')

theorem Runs.single (hc : isSeparator c = false) (ht : token? (c :: cs ++ rest) = some (t, rest))
    (hstep : step s t = some s') : Runs (c :: cs ++ rest) s rest s' := by
  refine .token hc ht ?_ hstep .done
  rw [List.append_eq, List.length_append]
  exact Nat.le_add_left _ _

theorem Runs.mark (hc : isSeparator c = false) (ht : token? (c :: left) = some (t, left))
    (hstep : step s t = some s') (h : Runs left s' rest s'') : Runs (c :: left) s rest s'' :=
  .token hc ht (Nat.le_refl _) hstep h

/-- A text is cut into tokens, with any fuel that is more than its length. -/
def Lexes (cs : List Char) (ts : List Token) : Prop :=
  ∀ fuel, cs.length < fuel → tokensWithin? fuel cs = some ts

theorem lexes_nil : Lexes [] [] := by
  intro fuel h
  cases fuel with
  | zero => cases h
  | succ fuel => rfl

theorem Lexes.cons {ts : List Token} (hc : isSeparator c = false)
    (ht : token? (c :: cs) = some (t, left)) (hle : left.length ≤ cs.length)
    (h : Lexes left ts) : Lexes (c :: cs) (t :: ts) := by
  intro fuel hfuel
  cases fuel with
  | zero => cases hfuel
  | succ fuel =>
      rw [List.length_cons] at hfuel
      have hleft := h fuel (by omega)
      rw [tokensWithin?, List.dropWhile_cons_of_neg (by rw [hc]; decide)]
      simp only [ht, Option.bind_eq_bind, Option.bind_some, hleft]
      rfl

/-- What a run takes are tokens, and it is what the machine does on them. -/
theorem Runs.exists_tokens {ts : List Token} (h : Runs cs s rest s') (hrest : Lexes rest ts) :
    ∃ taken, Lexes cs (taken ++ ts) ∧ taken.foldlM step s = some s' := by
  induction h with
  | done => exact ⟨[], hrest, rfl⟩
  | token hc ht hle hstep _ ih =>
      obtain ⟨taken, hlexes, hfold⟩ := ih hrest
      refine ⟨_ :: taken, hlexes.cons hc ht hle, ?_⟩
      rw [List.foldlM_cons, hstep]
      exact hfold

theorem parse?_of_runs {text : String} (h : Runs text.toList (.value, []) [] (.after j, [])) :
    parse? text = some j := by
  obtain ⟨tokens, hlexes, hfold⟩ := h.exists_tokens lexes_nil
  rw [List.append_nil] at hlexes
  have htokens : tokens? text.toList = some tokens := hlexes _ (Nat.lt_succ_self _)
  rw [parse?, htokens]
  simp only [Option.bind_eq_bind, Option.bind_some, hfold]

/-! ## Values as they are written -/

/-- A value without numbers but integers that are kept, that holds others in at most so many
levels. -/
def Fits : Nat → Json → Prop
  | 0, j => IsLeaf j
  | depth + 1, .arr items => ∀ j ∈ items, Fits depth j
  | depth + 1, .obj entries => ∀ e ∈ entries, Fits depth e.2
  | _ + 1, j => IsLeaf j

theorem IsLeaf.fits (h : IsLeaf j) (depth : Nat) : Fits depth j := by
  cases depth with
  | zero => exact h
  | succ depth =>
      cases h with
      | null => exact .null
      | bool b => exact .bool b
      | int hn => exact .int hn
      | str s => exact .str s

theorem Fits.succ : ∀ {depth : Nat} {j : Json}, Fits depth j → Fits (depth + 1) j
  | 0, _, h => IsLeaf.fits h 1
  | _ + 1, .arr _, h => fun j hj => (h j hj).succ
  | _ + 1, .obj _, h => fun e he => (h e he).succ
  | depth + 1, .null, h => IsLeaf.fits h (depth + 2)
  | depth + 1, .bool _, h => IsLeaf.fits h (depth + 2)
  | depth + 1, .int _, h => IsLeaf.fits h (depth + 2)
  | depth + 1, .str _, h => IsLeaf.fits h (depth + 2)

theorem compactItems_eq (items : List Json) : compact.compactItems items = items.map compact := by
  induction items with
  | nil => rfl
  | cons j items ih => rw [compact.compactItems, ih, List.map_cons]

theorem compactEntries_eq (entries : List (String × Json)) :
    compact.compactEntries entries = entries.map fun e => quoted e.1 ++ ":" ++ e.2.compact := by
  induction entries with
  | nil => rfl
  | cons e entries ih => rw [compact.compactEntries, ih, List.map_cons]

theorem toList_intercalate (first : String) (more : List String) :
    (",".intercalate (first :: more)).toList
      = first.toList ++ more.flatMap fun s => ',' :: s.toList := by
  induction more generalizing first with
  | nil => simp
  | cons second more ih =>
      rw [String.intercalate_cons_cons, String.toList_append, String.toList_append, ih]
      simp

def itemText (j : Json) : List Char := j.compact.toList

def entryText (e : String × Json) : List Char := (quoted e.1).toList ++ ':' :: e.2.compact.toList

/-- The members after the first, with a comma before each. -/
def more {α : Type} (write : α → List Char) (members : List α) : List Char :=
  members.flatMap fun a => ',' :: write a

theorem toList_compact_arr (j : Json) (items : List Json) :
    (compact (.arr (j :: items))).toList = '[' :: itemText j ++ more itemText items ++ [']'] := by
  rw [compact, compactItems_eq, List.map_cons, String.toList_append, String.toList_append,
    toList_intercalate, List.flatMap_map]
  rfl

theorem toList_compact_obj (e : String × Json) (entries : List (String × Json)) :
    (compact (.obj (e :: entries))).toList
      = '\x7b' :: entryText e ++ more entryText entries ++ ['\x7d'] := by
  rw [compact, compactEntries_eq, List.map_cons, String.toList_append, String.toList_append,
    toList_intercalate, List.flatMap_map]
  simp [more, entryText]

/-! ## Values are run through -/

/-- A place where a value may begin. -/
def TakesValue (awaits : Awaits) : Prop := awaits = .value ∨ awaits = .firstItem

variable {awaits : Awaits}

theorem step_value (h : TakesValue awaits) (j : Json) :
    step (awaits, stack) (.value j) = some (.after j, stack) := by
  rcases h with rfl | rfl
  · rfl
  · rfl

theorem step_openList (h : TakesValue awaits) (hroom : stack.length < depthLimit) :
    step (awaits, stack) .openList = some (.firstItem, .list [] :: stack) := by
  have hopen : openFrame stack (.list []) .firstItem = some (.firstItem, .list [] :: stack) :=
    if_pos hroom
  rcases h with rfl | rfl
  · exact hopen
  · exact hopen

theorem step_openRecord (h : TakesValue awaits) (hroom : stack.length < depthLimit) :
    step (awaits, stack) .openRecord = some (.firstName, .record [] :: stack) := by
  have hopen : openFrame stack (.record []) .firstName = some (.firstName, .record [] :: stack) :=
    if_pos hroom
  rcases h with rfl | rfl
  · exact hopen
  · exact hopen

/-- The text of a value is run through at any place where one may begin. -/
def IsRunThrough (depth : Nat) (j : Json) : Prop :=
  ∀ ⦃awaits stack rest⦄, TakesValue awaits → stack.length + depth ≤ depthLimit → Delimits rest →
    Runs (j.compact.toList ++ rest) (awaits, stack) rest (.after j, stack)

theorem IsLeaf.isRunThrough (h : IsLeaf j) (depth : Nat) : IsRunThrough depth j := by
  intro awaits stack rest hawaits hroom hrest
  have hcompact : j.compact = j.leaf := by
    cases h with
    | null => rfl
    | bool b => rfl
    | int hn => rfl
    | str s => rfl
  obtain ⟨c, cs, hc, htext⟩ := h.exists_cons
  have htoken := token?_leaf h hrest
  rw [hcompact]
  rw [htext] at htoken ⊢
  exact Runs.single hc htoken (step_value hawaits j)

theorem delimits_more {α : Type} (write : α → List Char) (members : List α)
    (hc : c ∈ [',', ']', '\x7d']) : Delimits (more write members ++ c :: rest) := by
  cases members with
  | nil => exact delimits_cons hc
  | cons a members => exact delimits_cons (by decide)

theorem more_cons {α : Type} (write : α → List Char) (a : α) (members : List α)
    (rest : List Char) :
    more write (a :: members) ++ rest = ',' :: (write a ++ (more write members ++ rest)) := by
  rw [more, List.flatMap_cons, List.append_assoc, List.cons_append]
  rfl

theorem runs_items (hroom : stack.length + 1 + depth ≤ depthLimit) :
    ∀ (items : List Json) (last : Json) (before : List Json),
      (∀ j ∈ items, IsRunThrough depth j) →
      Runs (more itemText items ++ ']' :: rest) (.after last, .list before :: stack) rest
        (.after (.arr ((last :: before).reverse ++ items)), stack)
  | [], last, before, _ => by
      rw [List.append_nil]
      exact .mark (by decide) rfl rfl .done
  | j :: items, last, before, h => by
      obtain ⟨hj, hitems⟩ := List.forall_mem_cons.mp h
      have hrest := runs_items hroom items j (last :: before) hitems
      have hvalue : Runs (itemText j ++ (more itemText items ++ ']' :: rest))
          (.value, .list (last :: before) :: stack) (more itemText items ++ ']' :: rest)
          (.after j, .list (last :: before) :: stack) :=
        hj (Or.inl rfl) hroom (delimits_more itemText items (by decide))
      rw [List.reverse_cons, List.append_assoc, List.singleton_append] at hrest
      rw [more_cons]
      exact .mark (by decide) rfl rfl (hvalue.trans hrest)

theorem runs_entry {e : String × Json} {before : List (String × Json)}
    (he : IsRunThrough depth e.2) (hroom : stack.length + 1 + depth ≤ depthLimit)
    (hawaits : awaits = .firstName ∨ awaits = .name) (hrest : Delimits rest) :
    Runs (entryText e ++ rest) (awaits, .record before :: stack) rest
      (.after e.2, .entry before e.1 :: stack) := by
  have hvalue : Runs (e.2.compact.toList ++ rest) (.value, .entry before e.1 :: stack) rest
      (.after e.2, .entry before e.1 :: stack) := he (Or.inl rfl) hroom hrest
  have hname : step (awaits, .record before :: stack) (.value (.str e.1))
      = some (.colon, .entry before e.1 :: stack) := by
    rcases hawaits with rfl | rfl
    · rfl
    · rfl
  have htoken := token?_quoted e.1 (':' :: e.2.compact.toList ++ rest)
  rw [entryText, List.append_assoc]
  rw [toList_quoted] at htoken ⊢
  exact (Runs.single (by decide) htoken hname).trans (.mark (by decide) rfl rfl hvalue)

theorem runs_entries (hroom : stack.length + 1 + depth ≤ depthLimit) :
    ∀ (entries : List (String × Json)) (last : String × Json) (before : List (String × Json)),
      (∀ e ∈ entries, IsRunThrough depth e.2) →
      Runs (more entryText entries ++ '\x7d' :: rest)
        (.after last.2, .entry before last.1 :: stack) rest
        (.after (.obj ((last :: before).reverse ++ entries)), stack)
  | [], last, before, _ => by
      rw [List.append_nil]
      exact .mark (by decide) rfl rfl .done
  | e :: entries, last, before, h => by
      obtain ⟨he, hentries⟩ := List.forall_mem_cons.mp h
      have hrest := runs_entries hroom entries e (last :: before) hentries
      have hentry : Runs (entryText e ++ (more entryText entries ++ '\x7d' :: rest))
          (.name, .record (last :: before) :: stack) (more entryText entries ++ '\x7d' :: rest)
          (.after e.2, .entry (last :: before) e.1 :: stack) :=
        runs_entry he hroom (Or.inr rfl) (delimits_more entryText entries (by decide))
      rw [List.reverse_cons, List.append_assoc, List.singleton_append] at hrest
      rw [more_cons]
      exact .mark (by decide) rfl rfl (hentry.trans hrest)

/-- A list is run through, with one level more than its items. -/
theorem isRunThrough_arr {items : List Json} (h : ∀ j ∈ items, IsRunThrough depth j) :
    IsRunThrough (depth + 1) (.arr items) := by
  intro awaits stack rest hawaits hroom _
  have hlevel : stack.length + 1 + depth ≤ depthLimit := by omega
  have hopen := step_openList hawaits (by omega : stack.length < depthLimit)
  cases items with
  | nil => exact .mark (by decide) rfl hopen (.mark (by decide) rfl rfl .done)
  | cons j items =>
      obtain ⟨hj, hitems⟩ := List.forall_mem_cons.mp h
      have hfirst : Runs (itemText j ++ (more itemText items ++ ']' :: rest))
          (.firstItem, .list [] :: stack) (more itemText items ++ ']' :: rest)
          (.after j, .list [] :: stack) :=
        hj (Or.inr rfl) hlevel (delimits_more itemText items (by decide))
      simp only [toList_compact_arr, List.cons_append, List.append_assoc, List.nil_append]
      exact .mark (by decide) rfl hopen (hfirst.trans (runs_items hlevel items j [] hitems))

theorem isRunThrough_obj {entries : List (String × Json)}
    (h : ∀ e ∈ entries, IsRunThrough depth e.2) : IsRunThrough (depth + 1) (.obj entries) := by
  intro awaits stack rest hawaits hroom _
  have hlevel : stack.length + 1 + depth ≤ depthLimit := by omega
  have hopen := step_openRecord hawaits (by omega : stack.length < depthLimit)
  cases entries with
  | nil => exact .mark (by decide) rfl hopen (.mark (by decide) rfl rfl .done)
  | cons e entries =>
      obtain ⟨he, hentries⟩ := List.forall_mem_cons.mp h
      have hfirst : Runs (entryText e ++ (more entryText entries ++ '\x7d' :: rest))
          (.firstName, .record [] :: stack) (more entryText entries ++ '\x7d' :: rest)
          (.after e.2, .entry [] e.1 :: stack) :=
        runs_entry he hlevel (Or.inl rfl) (delimits_more entryText entries (by decide))
      simp only [toList_compact_obj, List.cons_append, List.append_assoc, List.nil_append]
      exact .mark (by decide) rfl hopen (hfirst.trans (runs_entries hlevel entries e [] hentries))

theorem Fits.isRunThrough : ∀ {depth : Nat} {j : Json}, Fits depth j → IsRunThrough depth j
  | 0, _, h => IsLeaf.isRunThrough h 0
  | _ + 1, .arr _, h => isRunThrough_arr fun j hj => (h j hj).isRunThrough
  | _ + 1, .obj _, h => isRunThrough_obj fun e he => (h e he).isRunThrough
  | depth + 1, .null, h => IsLeaf.isRunThrough h (depth + 1)
  | depth + 1, .bool _, h => IsLeaf.isRunThrough h (depth + 1)
  | depth + 1, .int _, h => IsLeaf.isRunThrough h (depth + 1)
  | depth + 1, .str _, h => IsLeaf.isRunThrough h (depth + 1)

/-- A value that holds others in no more levels than may be open is read back. -/
theorem parse?_compact (h : Fits depth j) (hdepth : depth ≤ depthLimit) :
    parse? j.compact = some j := by
  have hrun : Runs (j.compact.toList ++ []) (.value, []) [] (.after j, []) :=
    h.isRunThrough (Or.inl rfl) (by rwa [List.length_nil, Nat.zero_add]) delimits_nil
  rw [List.append_nil] at hrun
  exact parse?_of_runs hrun

end Almanac.Json
