import Almanac.Json.Binary64
/-!
Data values: null, booleans, numbers, texts, lists and records.

A number written without point and exponent is an integer, any other is a `Binary64`. The entries
of a record keep their order, and a name may occur more than once; `find?` takes the last one.
-/

namespace Almanac

inductive Json where
  | null
  | bool (b : Bool)
  | int (n : Int)
  | real (x : Binary64)
  | str (s : String)
  | arr (items : List Json)
  | obj (entries : List (String × Json))
deriving Inhabited

namespace Json

/-- The value of a name in a record: the last one written. -/
def find? (entries : List (String × Json)) (name : String) : Option Json :=
  entries.reverse.lookup name

/-- A value that may be missing, as a data value. -/
def ofOption {α : Type} (write : α → Json) : Option α → Json
  | some a => write a
  | none => .null

/-- A record without the entries that are missing. -/
def record (entries : List (String × Option Json)) : Json :=
  .obj (entries.filterMap fun e => e.2.map fun v => (e.1, v))

/-- Places an entry in a record sorted by name, instead of an entry of the same name. -/
def place (name : String) (value : Json) : List (String × Json) → List (String × Json)
  | [] => [(name, value)]
  | (k, v) :: rest =>
    if name < k then (name, value) :: (k, v) :: rest
    else if name = k then (name, value) :: rest
    else (k, v) :: place name value rest

/-- The entries in the order of their names, of a repeated name the last one. -/
def sortedEntries (entries : List (String × Json)) : List (String × Json) :=
  entries.foldl (fun acc e => place e.1 e.2 acc) []

/-- The value with all its records sorted by name. -/
def sorted : Json → Json
  | .arr items => .arr (sortedItems items)
  | .obj entries => .obj (sortedEntries (sortedFields entries))
  | other => other
where
  /-- The items of a list, each sorted. -/
  sortedItems : List Json → List Json
    | [] => []
    | j :: rest => j.sorted :: sortedItems rest
  /-- The entries of a record, the value of each sorted. -/
  sortedFields : List (String × Json) → List (String × Json)
    | [] => []
    | (k, j) :: rest => (k, j.sorted) :: sortedFields rest

end Json

end Almanac
