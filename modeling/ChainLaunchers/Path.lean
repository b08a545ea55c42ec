/-
Module: ChainLaunchers.Path
Purpose: Paths as they are written: joining, cutting into segments, lexical parents.
Trusted boundary: joining and lexical parents, which restate those of paths of a Unix system.
Main exports:
  Path, Path.join, Path.segments, Path.isAbsolute, Path.parent?, Path.ancestors
-/
import ChainLaunchers.Text.Utf8

namespace ChainLaunchers

/-- A path as it is written.  Paths are never normalised. -/
abbrev Path := Bytes

/-- One segment of a path, or the name of an entry in a directory. -/
abbrev Name := Bytes

namespace Path

/-- The separator of segments, `/`. -/
def separator : UInt8 := 47

/-- The segment that stands for the directory itself. -/
def here : Name := [46]

/-- The segment that stands for the directory above. -/
def above : Name := [46, 46]

/-- Whether the path starts at the root. -/
def isAbsolute (path : Path) : Bool := path.head? = some separator

/-- The stretches between separators; an absolute path has an empty first segment, and a
trailing separator leaves an empty last one. -/
def segments (path : Path) : List Name := Bytes.splitOn separator path

/-- The path of `name` inside `directory`.  An absolute name stands for itself; otherwise a
separator is put in between unless one is there or the directory is the empty path. -/
def join (directory : Path) (name : Name) : Path :=
  if isAbsolute name then name
  else if directory = [] ∨ directory.getLast? = some separator then directory ++ name
  else directory ++ separator :: name

/-! ### Lexical parents

The parent of a path is found in its text alone.  Empty segments and `.` do not count as
components, except for a `.` at the very beginning. -/

/-- Segments that are no components after the first one. -/
def isFiller (segment : Name) : Bool := segment = [] || segment = here

/-- Drops the fillers at the end. -/
def dropFillers (segments : List Name) : List Name :=
  (segments.reverse.dropWhile isFiller).reverse

/-- The path without its last component.  The root and the empty path have no parent; the
parent of a single relative component is the empty path. -/
def parent? (path : Path) : Option Path :=
  match segments path with
  | [] => none
  | first :: others =>
    match dropFillers others with
    | [] => if first = [] then none else some []
    | components =>
      match dropFillers components.dropLast with
      | [] => if first = [] then some [separator] else some first
      | kept => some (Bytes.joinWith separator (first :: kept))

/-- The path and its lexical ancestors, the longest first, up to a bound on their number; the
empty path is not among them. -/
def ancestorsUpTo : (bound : Nat) → (path : Path) → List Path
  | 0, _ => []
  | bound + 1, path =>
    if path = [] then []
    else path :: (match parent? path with
      | some parent => ancestorsUpTo bound parent
      | none => [])

/-- The path and all its lexical ancestors but the empty path, the longest first. -/
def ancestors (path : Path) : List Path := ancestorsUpTo (path.length + 1) path

example : parent? (Utf8.ofString "a/./b//c/") = some (Utf8.ofString "a/./b") := by decide
example : parent? (Utf8.ofString "d/.") = some [] := by decide
example : parent? (Utf8.ofString "/a") = some (Utf8.ofString "/") := by decide
example : ancestors (Utf8.ofString "a/../b") =
    [Utf8.ofString "a/../b", Utf8.ofString "a/..", Utf8.ofString "a"] := by decide
example : join (Utf8.ofString "out//") (Utf8.ofString "x") = Utf8.ofString "out//x" := by decide

end Path

end ChainLaunchers
