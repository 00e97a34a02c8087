import Almanac.Json.Value
/-!
Data values in text, on one line or over several.

In a quoted text the quote, the backslash and the characters below U+0020 are escaped, and all
others stand for themselves. Over several lines each level is indented by two blanks.
-/

namespace Almanac.Json

/-- A character inside a quoted text. -/
def escaped (c : Char) : List Char :=
  match c with
  | '"' => ['\\', '"']
  | '\\' => ['\\', '\\']
  | '\x08' => ['\\', 'b']
  | '\x0c' => ['\\', 'f']
  | '\n' => ['\\', 'n']
  | '\r' => ['\\', 'r']
  | '\t' => ['\\', 't']
  | c =>
    if c.toNat < 0x20 then
      ['\\', 'u', '0', '0', Nat.digitChar (c.toNat / 16), Nat.digitChar (c.toNat % 16)]
    else [c]

def quoted (s : String) : String :=
  "\"" ++ String.ofList (s.toList.flatMap escaped) ++ "\""

/-- A value that holds no others. -/
def leaf : Json → String
  | .null => "null"
  | .bool true => "true"
  | .bool false => "false"
  | .int n => toString n
  | .real x => x.render
  | .str s => quoted s
  | .arr _ | .obj _ => ""

/-- The value on one line, without blanks. -/
def compact : Json → String
  | .arr items => "[" ++ ",".intercalate (compactItems items) ++ "]"
  | .obj entries => "\x7b" ++ ",".intercalate (compactEntries entries) ++ "\x7d"
  | j => j.leaf
where
  /-- The items of a list, each on one line. -/
  compactItems : List Json → List String
    | [] => []
    | j :: rest => j.compact :: compactItems rest
  /-- The entries of a record, each on one line. -/
  compactEntries : List (String × Json) → List String
    | [] => []
    | (k, j) :: rest => (quoted k ++ ":" ++ j.compact) :: compactEntries rest

/-- A line break and the indentation of a level. -/
def newline (level : Nat) : String :=
  String.ofList ('\n' :: List.replicate (2 * level) ' ')

/-- The members of a list or record between its brackets, one to a line. -/
def block (level : Nat) (opening closing : String) (members : List String) : String :=
  if members = [] then opening ++ closing
  else
    opening ++ newline (level + 1) ++ ("," ++ newline (level + 1)).intercalate members
      ++ newline level ++ closing

/-- The value over several lines, at a level of indentation. -/
def prettyAt (level : Nat) : Json → String
  | .arr items => block level "[" "]" (prettyItems (level + 1) items)
  | .obj entries => block level "\x7b" "\x7d" (prettyEntries (level + 1) entries)
  | j => j.leaf
where
  /-- The items of a list, each over several lines. -/
  prettyItems (level : Nat) : List Json → List String
    | [] => []
    | j :: rest => prettyAt level j :: prettyItems level rest
  /-- The entries of a record, each over several lines. -/
  prettyEntries (level : Nat) : List (String × Json) → List String
    | [] => []
    | (k, j) :: rest => (quoted k ++ ": " ++ prettyAt level j) :: prettyEntries level rest

def pretty (j : Json) : String := prettyAt 0 j

end Almanac.Json
