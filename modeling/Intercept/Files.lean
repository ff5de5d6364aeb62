/-
This file says what a path leads to: nothing, a directory, or the bytes of a file. A tree
of files answers for paths that start inside it. Parts of a path that are empty or a
single dot stay where they are, two dots go up, and every other part needs a directory
to start from.
-/
import Intercept.Text.Split

namespace Intercept

/-- What a path leads to. -/
inductive FileContent where
  | missing
  | directory
  | file (bytes : List UInt8)

/-- The bytes of a file. -/
def FileContent.bytes? : FileContent → Option (List UInt8)
  | .file bytes => some bytes
  | _ => none

/-- A place in a tree: its parts, innermost first. -/
abbrev Place := List (List Char)

/-- A tree of files. Directories are those that are listed and those that hold something. -/
structure FileTree where
  files : List (Place × List UInt8) := []
  directories : List Place := []

namespace FileTree

/-- What stands at a place. -/
def atPlace (tree : FileTree) (place : Place) : FileContent :=
  match tree.files.lookup place with
  | some bytes => .file bytes
  | none =>
    let places := tree.directories ++ tree.files.map Prod.fst
    if place.isEmpty ∨ places.any (place.isSuffixOf ·) then .directory else .missing

/-- Whether a place is a directory. -/
def isDirectory (tree : FileTree) (place : Place) : Bool :=
  match tree.atPlace place with
  | .directory => true
  | _ => false

/-- Walks from a place along the parts of a path; none stands for a place outside the tree, of
which only directories further up are known. -/
def walk (tree : FileTree) : Option Place → List (List Char) → Option (Option Place)
  | place, [] => some place
  | none, part :: rest =>
    if part = [] ∨ part = ['.'] ∨ part = ['.', '.'] then tree.walk none rest else none
  | some place, part :: rest =>
    if ¬ tree.isDirectory place then none
    else if part = [] ∨ part = ['.'] then tree.walk (some place) rest
    else if part = ['.', '.'] then tree.walk (if place.isEmpty then none else some place.tail) rest
    else tree.walk (some (part :: place)) rest

/-- What a path leads to. An empty path leads nowhere. -/
def find (tree : FileTree) (path : String) : FileContent :=
  match path.toList with
  | [] => .missing
  | first :: rest =>
    let start : Option Place := if first = '/' then none else some []
    match tree.walk start (Text.cut '/' (first :: rest)) with
    | none => .missing
    | some none => .directory
    | some (some place) => tree.atPlace place

/-- The place that a path inside the tree names, for putting something there. -/
def placeOf (path : String) : Place :=
  ((Text.cut '/' path.toList).filter fun part => part ≠ [] ∧ part ≠ ['.']).reverse

/-- Adds a file. -/
def addFile (tree : FileTree) (path : String) (bytes : List UInt8) : FileTree :=
  { tree with files := (placeOf path, bytes) :: tree.files }

/-- Adds a directory. -/
def addDirectory (tree : FileTree) (path : String) : FileTree :=
  { tree with directories := placeOf path :: tree.directories }

end FileTree

end Intercept
