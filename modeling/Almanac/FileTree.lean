import Almanac.Text.Bytes
/-!
Trees of files, and what the file at a path reads as.

A path is read name by name from the root, or from the working folder when it does not begin with a
slash. An empty name and one dot stand for the folder itself, and two dots for the folder above,
which of the root is the root. The first name that cannot be followed decides the fault.
-/

namespace Almanac

inductive Unreadable where
  | missing
  | denied
  | notFolder
  | isFolder
  | nameTooLong
  | notText
deriving DecidableEq

namespace Unreadable

/-- The number that the system has for a fault, if it is one of the system's. -/
def number? : Unreadable → Option Nat
  | .missing => some 2
  | .denied => some 13
  | .notFolder => some 20
  | .isFolder => some 21
  | .nameTooLong => some 36
  | .notText => none

def name : Unreadable → String
  | .missing => "No such file or directory"
  | .denied => "Permission denied"
  | .notFolder => "Not a directory"
  | .isFolder => "Is a directory"
  | .nameTooLong => "File name too long"
  | .notText => "stream did not contain valid UTF-8"

/-- The name of a fault and, if it has one, its number. -/
def message (u : Unreadable) : String :=
  match u.number? with
  | some n => u.name ++ " (os error " ++ toString n ++ ")"
  | none => u.name

def ofNumber? (n : Nat) : Option Unreadable :=
  [missing, denied, notFolder, isFolder, nameTooLong].find? fun u => u.number? = some n

end Unreadable

/-- A file with its text, or a folder with what it holds by name. -/
inductive FileTree where
  | file (text : String)
  | folder (entries : List (String × FileTree))

namespace FileTree

/-- The greatest number of bytes in a name. -/
def longestName : Nat := 255

/-- The greatest number of bytes in a path. -/
def longestPath : Nat := 4095

def names : List Char → List (List Char)
  | [] => [[]]
  | c :: cs =>
    if c = '/' then [] :: names cs
    else
      match names cs with
      | name :: rest => (c :: name) :: rest
      | [] => [[c]]

/-- What a folder holds under a name. -/
def entry? (entries : List (String × FileTree)) (name : List Char) : Option FileTree :=
  (entries.find? fun e => e.1.toList == name).map Prod.snd

/-- Follows names from a place, given the folders above it from the nearest up. -/
def follow (here : FileTree) (above : List FileTree) : List (List Char) → Except Unreadable FileTree
  | [] => .ok here
  | name :: rest =>
    match here with
    | .file _ => .error .notFolder
    | .folder entries =>
      if name = [] ∨ name = ['.'] then follow here above rest
      else if name = ['.', '.'] then
        match above with
        | [] => follow here [] rest
        | up :: further => follow up further rest
      else if longestName < Text.byteLength name then .error .nameTooLong
      else
        match entry? entries name with
        | none => .error .missing
        | some next => follow next (here :: above) rest

/-- The text of the file at a path, in a tree with a working folder right below its root. -/
def read (root working : FileTree) (path : String) : Except Unreadable String := do
  let cs := path.toList
  if longestPath < Text.byteLength cs then throw .nameTooLong
  if cs = [] then throw .missing
  let found ←
    if cs.head? = some '/' then root.follow [] (names cs)
    else working.follow [root] (names cs)
  match found with
  | .file text => return text
  | .folder _ => throw .isFolder

example : read (.folder [("a", .file "x")]) (.folder []) "//a" = .ok "x" := by rfl
example : read (.folder [("a", .file "x")]) (.folder []) "../a/" = .error .notFolder := by rfl
example : read (.folder []) (.folder []) "." = .error .isFolder := by rfl

end FileTree

end Almanac
