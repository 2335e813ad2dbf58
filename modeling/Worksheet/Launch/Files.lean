import Worksheet.Settings.Basic
import Worksheet.Text.Bytes

/-!
# File trees

A file tree holds directories and files by their place, the list of names that leads there from the
root, innermost name first.  A path is followed from name to name, through directories only.

Two things are done with a path: `read` asks for the state of the file there, and `open?` opens a
file for appending, which makes it if there is none.
-/

namespace Worksheet

/-- Why a path cannot be opened. -/
inductive PathFailure where
  /-- There is nothing at the path. -/
  | missing
  /-- The path goes on behind something that is no directory. -/
  | notDirectory
  /-- There is a directory where a file is needed. -/
  | isDirectory
  /-- The path, or a name in it, is too long. -/
  | tooLong
deriving DecidableEq, Repr

/-- The message for a failure. -/
def PathFailure.message : PathFailure → String
  | missing => "No such file or directory (os error 2)"
  | notDirectory => "Not a directory (os error 20)"
  | isDirectory => "Is a directory (os error 21)"
  | tooLong => "File name too long (os error 36)"

/-- A place in a file tree: the names that lead there from the root, innermost first. -/
abbrev Place := List String

/-- What is at a place. -/
inductive FileNode where
  | directory
  /-- A file with its bytes. -/
  | file (bytes : ByteArray)

/-- The directories and files of a system, and the place where relative paths start. -/
structure Files where
  /-- What is at each place other than the root. -/
  nodes : List (Place × FileNode)
  /-- Where relative paths start. -/
  current : Place

namespace Files

/-- The greatest number of bytes in a name. -/
def maxName : Nat := 255

/-- The greatest number of bytes in a path. -/
def maxPath : Nat := 4095

/-- What is at a place; the root is a directory. -/
def node? (f : Files) : Place → Option FileNode
  | [] => some .directory
  | place => f.nodes.lookup place

/-- Follows names from a place. -/
def follow (f : Files) (place : Place) : List (List Char) → Except PathFailure Place
  | [] => if (f.node? place).isSome then .ok place else .error .missing
  | name :: names =>
    match f.node? place with
    | none => .error .missing
    | some (.file _) => .error .notDirectory
    | some .directory =>
      if name = [] ∨ name = ['.'] then f.follow place names
      else if name = ['.', '.'] then f.follow place.tail names
      else if maxName < Text.byteLength name then .error .tooLong
      else f.follow (String.ofList name :: place) names

/-- The place at which a path starts. -/
def start (f : Files) (path : List Char) : Place :=
  if path.head? = some '/' then [] else f.current

/-- The names in a path, with an empty one for a slash at either end and between two slashes. -/
def names : List Char → List (List Char)
  | [] => [[]]
  | c :: cs =>
    if c = '/' then [] :: names cs
    else
      match names cs with
      | [] => [[c]]
      | name :: rest => (c :: name) :: rest

/-- The state of the file at a path. -/
def read (f : Files) (path : String) : File :=
  let cs := path.toList
  if cs = [] ∨ maxPath < Text.byteLength cs then .missing
  else
    match f.follow (f.start cs) (names cs) with
    | .error _ => .missing
    | .ok place =>
      match f.node? place with
      | none => .missing
      | some .directory => .unreadable
      | some (.file bytes) => .content bytes

/-- Opens the file of a name in a directory for appending. -/
def openIn (f : Files) (directory : Place) (name : List Char) : Except PathFailure Files :=
  if name = ['.'] ∨ name = ['.', '.'] then .error .isDirectory
  else if maxName < Text.byteLength name then .error .tooLong
  else
    let place := String.ofList name :: directory
    match f.node? place with
    | some .directory => .error .isDirectory
    | some (.file _) => .ok f
    | none => .ok { f with nodes := (place, .file ⟨#[]⟩) :: f.nodes }

/-- Opens the file at a path for appending, and answers the file tree with that file.  A path that
ends with a slash is one of a directory. -/
def open? (f : Files) (path : String) : Except PathFailure Files :=
  let cs := path.toList
  if cs = [] then .error .missing
  else if maxPath < Text.byteLength cs then .error .tooLong
  else
    match ((names cs).filter (· ≠ [])).reverse with
    | [] => .error .isDirectory
    | name :: outer =>
      match f.follow (f.start cs) outer.reverse with
      | .error e => .error e
      | .ok directory =>
        match f.node? directory with
        | some .directory =>
          if cs.getLast? = some '/' then .error .isDirectory else f.openIn directory name
        | _ => .error .notDirectory

end Files

end Worksheet
