import Almanac.DateField
import Almanac.Proofs.Resolver.Order
/-!
# What an index answers

An index is used by requests in any order: documents are inserted, some of them again, and queries
are searched in between.  `LastInserted` says of a whole history which instant a document has in the
end, and `Keeps` ties the stored list to it: the list ascends, and it holds a document with an
instant exactly if that is the last one it was inserted with.  One request keeps that
(`Keeps.perform`), so a history does (`keeps_after`).

The main statement reads the answers off it.  A query for a range is matched by the instants in the
range (`isMatch_query`), since it takes over both ends and both are tried in one way, which
`Interval.contains_iff` spells out.  A value that resolves parts the documents into those before it
and those from it on.
-/

namespace Almanac

/-! ## Ranges and their queries -/

section Query

variable {r : Interval} {i x : Instant} {step : UInt32}

theorem isMatch_query : (r.query step).isMatch i.millis = r.contains i := by
  simp only [Query.isMatch, Interval.query, Interval.contains, Option.map_map]
  rfl

theorem isMatch_exact : (Query.exact x.millis step).isMatch i.millis = true ↔ i = x := by
  simp only [Query.isMatch, Query.exact, Option.map_some, Bool.and_eq_true, isAbove_inclusive,
    isBelow_inclusive]
  rw [← Instant.toInt_inj]
  exact ⟨fun h => Int.le_antisymm h.2 h.1, fun h => ⟨Int.le_of_eq h.symm, Int.le_of_eq h⟩⟩

end Query

namespace Index

/-! ## Histories -/

/-- What an index can be asked to do. -/
inductive Request where
  | insert (doc : Nat) (i : Instant)
  | search (q : Query)

/-- The index after a request. -/
def perform (x : Index) : Request → Index
  | .insert doc i => x.insert doc i
  | .search q => (x.search q).2

/-- The index after a history of requests. -/
def after (history : List Request) : Index := history.foldl perform .empty

/-- The last insertion of a document in a history is with this instant. -/
def LastInserted (history : List Request) (doc : Nat) (i : Instant) : Prop :=
  ∃ earlier later, history = earlier ++ .insert doc i :: later ∧ ∀ j, .insert doc j ∉ later

variable {history : List Request} {request : Request} {doc d : Nat} {i j : Instant} {q : Query}

/-- One more request changes the last insertion if it is an insertion of that document. -/
theorem lastInserted_concat :
    LastInserted (history ++ [request]) doc i ↔
      request = .insert doc i ∨ (∀ j, request ≠ .insert doc j) ∧ LastInserted history doc i := by
  constructor
  · rintro ⟨earlier, later, heq, hlast⟩
    rcases List.eq_nil_or_concat later with rfl | ⟨later, last, rfl⟩
    · exact Or.inl (List.singleton_inj.mp (List.append_inj' heq rfl).2)
    · rw [List.concat_eq_append] at heq hlast
      have hsplit : history ++ [request] = (earlier ++ .insert doc i :: later) ++ [last] := by
        rw [heq, List.append_assoc, List.cons_append]
      obtain ⟨rfl, hlast'⟩ := List.append_inj' hsplit rfl
      obtain rfl := List.singleton_inj.mp hlast'
      refine Or.inr ⟨fun j hj => ?_, earlier, later, rfl, fun j hj => ?_⟩
      · exact hlast j (List.mem_append_right later (hj ▸ List.mem_singleton_self request))
      · exact hlast j (List.mem_append_left [request] hj)
  · rintro (rfl | ⟨hother, earlier, later, rfl, hlast⟩)
    · exact ⟨history, [], rfl, fun j => List.not_mem_nil⟩
    · refine ⟨earlier, later ++ [request], by rw [List.append_assoc, List.cons_append], ?_⟩
      intro j hj
      rcases List.mem_append.mp hj with hj | hj
      · exact hlast j hj
      · exact hother j (List.mem_singleton.mp hj).symm

/-! ## The stored list -/

/-- Documents in strictly ascending order. -/
def Ascending (documents : List (Nat × Instant)) : Prop :=
  documents.Pairwise fun a b => a.1 < b.1

variable {documents : List (Nat × Instant)}

theorem Ascending.unique (h : Ascending documents) (hi : (doc, i) ∈ documents)
    (hj : (doc, j) ∈ documents) : i = j := by
  induction documents with
  | nil => cases hi
  | cons e rest ih =>
      obtain ⟨hfirst, hrest⟩ := List.pairwise_cons.mp h
      rcases List.mem_cons.mp hi with rfl | hi'
      · rcases List.mem_cons.mp hj with heq | hj'
        · exact (Prod.mk.inj heq).2.symm
        · exact absurd (hfirst _ hj') (Nat.lt_irrefl doc)
      · rcases List.mem_cons.mp hj with rfl | hj'
        · exact absurd (hfirst _ hi') (Nat.lt_irrefl doc)
        · exact ih hrest hi' hj'

theorem mem_place_iff (h : Ascending documents) :
    (d, j) ∈ place doc i documents ↔ (d = doc ∧ j = i) ∨ (d ≠ doc ∧ (d, j) ∈ documents) := by
  induction documents with
  | nil => simp [place]
  | cons e rest ih =>
      obtain ⟨d', j'⟩ := e
      obtain ⟨hfirst, hrest⟩ := List.pairwise_cons.mp h
      have hne : ∀ {k : Nat}, k ≤ d' → (d, j) ∈ rest → d ≠ k := by
        intro k hk hmem heq
        have hlt : d' < d := hfirst (d, j) hmem
        omega
      -- the document comes before the first one, in its place, or further on
      simp only [place]
      split
      · next hlt =>
        simp only [List.mem_cons, Prod.mk.injEq]
        constructor
        · rintro (h | ⟨rfl, rfl⟩ | hmem)
          · exact Or.inl h
          · exact Or.inr ⟨Nat.ne_of_gt hlt, Or.inl ⟨rfl, rfl⟩⟩
          · exact Or.inr ⟨hne (Nat.le_of_lt hlt) hmem, Or.inr hmem⟩
        · rintro (h | ⟨-, h⟩)
          · exact Or.inl h
          · exact Or.inr h
      · split
        · next heq =>
          subst heq
          simp only [List.mem_cons, Prod.mk.injEq]
          constructor
          · rintro (h | hmem)
            · exact Or.inl h
            · exact Or.inr ⟨hne (Nat.le_refl doc) hmem, Or.inr hmem⟩
          · rintro (h | ⟨hd, ⟨rfl, -⟩ | hmem⟩)
            · exact Or.inl h
            · exact absurd rfl hd
            · exact Or.inr hmem
        · next hne' =>
          rw [List.mem_cons, ih hrest, List.mem_cons, Prod.mk.injEq]
          constructor
          · rintro (⟨rfl, rfl⟩ | h | ⟨hd, hmem⟩)
            · exact Or.inr ⟨Ne.symm hne', Or.inl ⟨rfl, rfl⟩⟩
            · exact Or.inl h
            · exact Or.inr ⟨hd, Or.inr hmem⟩
          · rintro (h | ⟨hd, h | hmem⟩)
            · exact Or.inr (Or.inl h)
            · exact Or.inl h
            · exact Or.inr (Or.inr ⟨hd, hmem⟩)

theorem ascending_place (h : Ascending documents) : Ascending (place doc i documents) := by
  induction documents with
  | nil => exact List.pairwise_singleton _ _
  | cons e rest ih =>
      obtain ⟨d', j'⟩ := e
      obtain ⟨hfirst, hrest⟩ := List.pairwise_cons.mp h
      simp only [place]
      split
      · next hlt =>
        refine List.pairwise_cons.mpr ⟨fun b hb => ?_, h⟩
        rcases List.mem_cons.mp hb with rfl | hb
        · exact hlt
        · exact Nat.lt_trans hlt (hfirst b hb)
      · split
        · next heq =>
          subst heq
          exact List.pairwise_cons.mpr ⟨hfirst, hrest⟩
        · next hlt hne =>
          refine List.pairwise_cons.mpr ⟨fun b hb => ?_, ih hrest⟩
          rcases (mem_place_iff hrest).mp hb with ⟨hb, -⟩ | ⟨-, hb⟩
          · show d' < b.1
            omega
          · exact hfirst b hb

/-! ## From one request to a history -/

/-- An index that stores, in order, what a history has inserted last. -/
structure Keeps (x : Index) (history : List Request) : Prop where
  ascending : Ascending x.documents
  mem_iff : ∀ doc i, (doc, i) ∈ x.documents ↔ LastInserted history doc i

variable {x : Index}

theorem Keeps.perform (h : Keeps x history) (request : Request) :
    Keeps (x.perform request) (history ++ [request]) := by
  cases request with
  | insert doc i =>
      refine ⟨ascending_place h.ascending, fun d j => ?_⟩
      rw [lastInserted_concat, ← h.mem_iff]
      refine (mem_place_iff h.ascending).trans (or_congr ?_ (and_congr ?_ Iff.rfl))
      · rw [Request.insert.injEq, eq_comm, eq_comm (a := i)]
      · simp only [ne_eq, Request.insert.injEq, not_and, eq_comm (a := d)]
        exact ⟨fun hne j heq => absurd heq hne, fun hno heq => hno i heq rfl⟩
  | search q =>
      refine ⟨h.ascending, fun d j => ?_⟩
      rw [lastInserted_concat, ← h.mem_iff]
      simp only [ne_eq, reduceCtorEq, not_false_eq_true, implies_true, true_and, false_or]
      exact Iff.rfl

theorem Keeps.run (h : Keeps x history) (later : List Request) :
    Keeps (later.foldl Index.perform x) (history ++ later) := by
  induction later generalizing x history with
  | nil => rwa [List.append_nil]
  | cons request later ih =>
      have hrun := ih (h.perform request)
      rwa [List.append_assoc] at hrun

theorem keeps_empty : Keeps .empty [] := by
  refine ⟨List.Pairwise.nil, fun doc i => ⟨nofun, ?_⟩⟩
  rintro ⟨earlier, later, heq, -⟩
  exact absurd heq.symm (List.append_ne_nil_of_right_ne_nil earlier (List.cons_ne_nil _ later))

theorem keeps_after (history : List Request) : Keeps (after history) history :=
  keeps_empty.run history

theorem Keeps.unique (h : Keeps x history) (hi : LastInserted history doc i)
    (hj : LastInserted history doc j) : i = j :=
  h.ascending.unique ((h.mem_iff doc i).mpr hi) ((h.mem_iff doc j).mpr hj)

/-! ## Answers -/

theorem Keeps.ascending_search (h : Keeps x history) : (x.search q).1.Pairwise (· < ·) :=
  List.Pairwise.map Prod.fst (fun _ _ hlt => hlt) (h.ascending.filter _)

theorem Keeps.mem_search_iff (h : Keeps x history) :
    doc ∈ (x.search q).1 ↔ ∃ i, LastInserted history doc i ∧ q.isMatch i.millis = true := by
  simp only [search, matching, List.mem_map, List.mem_filter]
  constructor
  · rintro ⟨⟨d, i⟩, ⟨hmem, hmatch⟩, rfl⟩
    exact ⟨i, (h.mem_iff d i).mp hmem, hmatch⟩
  · rintro ⟨i, hlast, hmatch⟩
    exact ⟨(doc, i), ⟨(h.mem_iff doc i).mpr hlast, hmatch⟩, rfl⟩

/-- After a history a query is answered, in strictly ascending order, by exactly the documents whose
last instant is wanted. -/
def Selects (history : List Request) (q : Query) (wanted : Instant → Prop) : Prop :=
  ((after history).search q).1.Pairwise (· < ·) ∧
    ∀ doc, doc ∈ ((after history).search q).1 ↔ ∃ i, LastInserted history doc i ∧ wanted i

theorem selects_of_isMatch {wanted : Instant → Prop}
    (h : ∀ i, q.isMatch i.millis = true ↔ wanted i) : Selects history q wanted := by
  refine ⟨(keeps_after history).ascending_search, fun doc => ?_⟩
  rw [(keeps_after history).mem_search_iff]
  simp only [h]

theorem selects_query (r : Interval) (step : UInt32) :
    Selects history (r.query step) fun i => r.contains i = true :=
  selects_of_isMatch fun i => by rw [isMatch_query]

/-! ## A value as a border -/

/-- Two queries between which the documents of a history are parted. -/
def Parts (history : List Request) (p q : Query) : Prop :=
  (∀ doc, (∃ i, LastInserted history doc i) ↔
    doc ∈ ((after history).search p).1 ∨ doc ∈ ((after history).search q).1) ∧
  ∀ doc ∈ ((after history).search p).1, doc ∉ ((after history).search q).1

variable {f : DateField} {input : Input} {now border : Instant}

theorem side_of_resolve (h : f.resolve input now = .ok border) (inclusive : Bool) :
    f.resolver.side (some input) inclusive now .down
      = .ok (.closedAt border inclusive, Resolver.isSteady input) := by
  obtain ⟨res, hres, hborder⟩ := bind_eq_ok.mp h
  obtain rfl := pure_eq_ok.mp hborder
  exact Resolver.side_eq_ok_iff.mpr ⟨res, hres, rfl⟩

/-- Neither an exclusive upper side nor a lower side is widened. -/
theorem ranges_of_resolve (h : f.resolve input now = .ok border) (low high : Bool) :
    ∃ before onward, f.range none (some input) low false now = .ok before ∧
      f.range (some input) none true high now = .ok onward ∧
      (∀ i, before.contains i = true ↔ i < border) ∧
      ∀ i, onward.contains i = true ↔ border ≤ i := by
  refine ⟨_, _, Resolver.range_eq_ok_iff.mpr ⟨_, _, rfl, side_of_resolve h false, rfl⟩,
    Resolver.range_eq_ok_iff.mpr ⟨_, _, side_of_resolve h true, rfl, rfl⟩, fun i => ?_, fun i => ?_⟩
  · simp only [Interval.contains, Bound.unbounded, Bound.closedAt, Option.map_none,
      Option.map_some, isAbove_open, Bool.true_and, isBelow_exclusive]
    exact Iff.rfl
  · simp only [Interval.contains, Bound.unbounded, Bound.closedAt, Option.map_none,
      Option.map_some, isBelow_open, Bool.and_true, isAbove_inclusive]
    exact Iff.rfl

theorem parts_of_contains {before onward : Interval}
    (hbefore : ∀ i, before.contains i = true ↔ i < border)
    (honward : ∀ i, onward.contains i = true ↔ border ≤ i) (step : UInt32) :
    Parts history (before.query step) (onward.query step) := by
  constructor
  · intro doc
    rw [(selects_query before step).2, (selects_query onward step).2]
    constructor
    · rintro ⟨i, hi⟩
      rcases Int.lt_or_le i.toInt border.toInt with h | h
      · exact Or.inl ⟨i, hi, (hbefore i).mpr h⟩
      · exact Or.inr ⟨i, hi, (honward i).mpr h⟩
    · rintro (⟨i, hi, -⟩ | ⟨i, hi, -⟩)
      · exact ⟨i, hi⟩
      · exact ⟨i, hi⟩
  · intro doc hdoc hdoc'
    obtain ⟨i, hi, h⟩ := ((selects_query before step).2 doc).mp hdoc
    obtain ⟨j, hj, h'⟩ := ((selects_query onward step).2 doc).mp hdoc'
    obtain rfl := (keeps_after history).unique hi hj
    exact absurd ((hbefore i).mp h) (Int.not_lt.mpr ((honward i).mp h'))

/-- After any history of insertions and searches, the query for a range is answered by exactly the
documents whose last instant lies in the range, and the query for an instant by those whose last
instant it is, in strictly ascending order; a search changes nothing that is stored; and the ranges
before a value and from it on part the stored documents. -/
theorem search_selects (history : List Request) :
    (∀ (r : Interval) (step : UInt32),
      Selects history (r.query step) fun i => r.contains i = true) ∧
    (∀ (x : Instant) (step : UInt32), Selects history (.exact x.millis step) fun i => i = x) ∧
    (∀ q, ((after history).search q).2.documents = (after history).documents) ∧
    ∀ (f : DateField) (input : Input) (now border : Instant), f.resolve input now = .ok border →
      ∀ low high : Bool, ∃ before onward,
        f.range none (some input) low false now = .ok before ∧
        f.range (some input) none true high now = .ok onward ∧
        Parts history (f.query before) (f.query onward) := by
  refine ⟨selects_query, fun x step => selects_of_isMatch fun i => isMatch_exact, fun q => rfl, ?_⟩
  intro f input now border hborder low high
  obtain ⟨before, onward, hbefore, honward, hlt, hle⟩ := ranges_of_resolve hborder low high
  exact ⟨before, onward, hbefore, honward, parts_of_contains hlt hle f.precisionStep⟩

/-- Document 7 is inserted twice and moves to the other side of the first of February. -/
theorem search_selects_inserted_again :
    DateField.default.resolve (.text "2021-02-01") .epoch = .ok ⟨1612137600000⟩ ∧
      ∃ before onward,
        DateField.default.range none (some (.text "2021-02-01")) true false .epoch = .ok before ∧
        DateField.default.range (some (.text "2021-02-01")) none true true .epoch = .ok onward ∧
        Parts [.insert 7 .epoch, .insert 3 ⟨1612137600000⟩, .search (.exact 0 16),
            .insert 7 ⟨1612224000000⟩, .insert 5 .epoch]
          (DateField.default.query before) (DateField.default.query onward) := by
  have hresolve : DateField.default.resolve (.text "2021-02-01") .epoch = .ok ⟨1612137600000⟩ :=
    toOption_eq_some.mp (by decide +kernel)
  exact ⟨hresolve,
    (search_selects _).2.2.2 .default (.text "2021-02-01") .epoch _ hresolve true true⟩

end Index

end Almanac
