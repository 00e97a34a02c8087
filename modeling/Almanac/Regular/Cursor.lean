import Almanac.Regular.Tree
/-!
Reading the text of a regular expression: a cursor in it, and steps that may fail.

When blanks are skipped, so are comments, which go from a number sign to the end of the row.
-/

namespace Almanac.Regular

/-- A place in the text, with what comes there and what has been seen before. -/
structure Cursor where
  rest : List Char
  place : Place := {}
  /-- Whether blanks and comments are skipped. -/
  skips : Bool := false
  /-- The names of groups so far, the last first. -/
  names : List (List Char × Extent) := []
  /-- More than the characters of the whole text, so that no loop over them is longer. -/
  limit : Nat

namespace Cursor

/-- The cursor after the next character, if there is one. -/
def step (k : Cursor) : Cursor :=
  match k.rest with
  | [] => k
  | c :: cs => { k with rest := cs, place := k.place.after c }

/-- What comes after blanks and comments, and where, from inside a comment or from outside one. -/
def afterBlanks (inComment : Bool) (p : Place) : List Char → List Char × Place
  | [] => ([], p)
  | c :: cs =>
    if inComment then afterBlanks (c ≠ '\n') (p.after c) cs
    else if Text.isBlank c then afterBlanks false (p.after c) cs
    else if c = '#' then afterBlanks true (p.after c) cs
    else (c :: cs, p)

/-- The cursor after blanks and comments, if they are skipped. -/
def skip (k : Cursor) : Cursor :=
  if k.skips then
    let (rest, place) := afterBlanks false k.place k.rest
    { k with rest, place }
  else k

/-- The part from a place up to the cursor. -/
def since (k : Cursor) (first : Place) : Extent := ⟨first, k.place⟩

/-- The part without a character at the cursor. -/
def point (k : Cursor) : Extent := .point k.place

/-- The part of the next character. -/
def ofNext (k : Cursor) : Extent := ⟨k.place, k.step.place⟩

/-- The second character that comes, where blanks count only if they are not skipped; a comment
counts from the character after its sign on that is not blank. -/
def second? (k : Cursor) : Option Char :=
  let later := k.rest.drop 1
  if k.skips then
    match later.dropWhile Text.isBlank with
    | '#' :: cs => (cs.dropWhile Text.isBlank).head? <|> later.head?
    | c :: _ => some c
    | [] => later.head?
  else later.head?

end Cursor

/-! ## Steps -/

/-- A step of reading. -/
abbrev Reader (α : Type) := StateT Cursor (Except Fault) α

namespace Reader

/-- Fails for a reason that a part of the text gives. -/
def fail {α : Type} (reason : Reason) (extent : Extent) : Reader α :=
  throw { reason, extent }

def peek? : Reader (Option Char) := return (← get).rest.head?

def step : Reader Unit := modify Cursor.step

def skip : Reader Unit := modify Cursor.skip

def stepAndSkip : Reader Unit := modify fun k => k.step.skip

def place : Reader Place := return (← get).place

/-- Goes on by a text, if it comes next. -/
def take (text : String) : Reader Bool := do
  let cs := text.toList
  if cs.isPrefixOf (← get).rest then
    modify fun k => cs.foldl (fun k _ => k.step) k
    return true
  else return false

/-- Goes on while characters of a kind come, over blanks and comments too if so told, and gives
them. -/
def takeWhile (skipping : Bool) (p : Char → Bool) : Reader (List Char) := do
  go (← get).limit
where
  /-- Goes on for some number of characters at most. -/
  go : Nat → Reader (List Char)
    | 0 => return []
    | fuel + 1 => do
      match ← peek? with
      | some c =>
        if p c then
          if skipping then stepAndSkip else step
          return c :: (← go fuel)
        else return []
      | none => return []

end Reader

end Almanac.Regular
