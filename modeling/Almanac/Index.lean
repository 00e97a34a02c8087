import Almanac.Query
/-!
An index of documents by one instant each, in ascending order of their numbers.

Inserting a document again replaces its instant. The index also keeps the queries it has answered.
-/

namespace Almanac

/-- The documents with their instants, and the queries answered so far, the first first. -/
structure Index where
  documents : List (Nat × Instant)
  queries : List Query

namespace Index

def empty : Index := ⟨[], []⟩

/-- Places a document among others in ascending order. -/
def place (doc : Nat) (i : Instant) : List (Nat × Instant) → List (Nat × Instant)
  | [] => [(doc, i)]
  | (d, j) :: rest =>
    if doc < d then (doc, i) :: (d, j) :: rest
    else if doc = d then (doc, i) :: rest
    else (d, j) :: place doc i rest

/-- Stores the instant of a document. -/
def insert (x : Index) (doc : Nat) (i : Instant) : Index :=
  { x with documents := place doc i x.documents }

/-- The documents whose instant satisfies a query. -/
def matching (x : Index) (q : Query) : List Nat :=
  (x.documents.filter fun d => q.isMatch d.2.millis).map Prod.fst

/-- Answers a query and remembers it. -/
def search (x : Index) (q : Query) : List Nat × Index :=
  (x.matching q, { x with queries := x.queries ++ [q] })

/-- The instant of a document. -/
def find? (x : Index) (doc : Nat) : Option Instant := x.documents.lookup doc

end Index

end Almanac
