/-
Module: ChainLaunchers.Tree.Walk
Purpose: Following a path through a tree, and reading what it leads to.
Trusted boundary: the resolution of paths, which restates that of the operating system.
Main exports:
  Path.check, Tree.step, Tree.walk, Tree.locate, Tree.directoryAt, Tree.isPresent,
  Tree.isDirectoryPath, Tree.readFile
-/
import ChainLaunchers.Tree.Basic
import ChainLaunchers.IoError

namespace ChainLaunchers

/-!
A path is followed segment by segment, from the root if it is absolute and from the working
directory if not.  Each step starts from a directory: a segment after a file fails, even an
empty one, which is how a trailing separator asks for a directory.
-/

/-- Names have at most 255 bytes. -/
def Name.limit : Nat := 255

/-- Paths have fewer than 4096 bytes. -/
def Path.limit : Nat := 4096

/-- What is wrong with a path before anything is looked up: it holds a null byte, is empty or
is too long. -/
def Path.check (path : Path) : Except IoError Unit :=
  if 0 ∈ path then .error .nullInPath
  else if path = [] then .error .notFound
  else if Path.limit ≤ path.length then .error .nameTooLong
  else .ok ()

namespace Tree

/-- One step from a place along a segment. -/
def step (tree : Tree) (place : Place) (segment : Name) : Except IoError Place :=
  match tree.node? place with
  | some .directory =>
    if segment = [] ∨ segment = Path.here then .ok place
    else if segment = Path.above then .ok place.dropLast
    else if Name.limit < segment.length then .error .nameTooLong
    else if (tree.node? (place ++ [segment])).isSome then .ok (place ++ [segment])
    else .error .notFound
  | _ => .error .notDirectory

/-- The steps along several segments. -/
def walk (tree : Tree) (place : Place) (segments : List Name) : Except IoError Place :=
  segments.foldlM tree.step place

/-- Where a path starts. -/
def start (tree : Tree) (path : Path) : Place :=
  if path.isAbsolute then [] else tree.workingPlace

/-- The place that a path leads to. -/
def locate (tree : Tree) (path : Path) : Except IoError Place := do
  path.check
  tree.walk (tree.start path) path.segments

/-- The directory that the segments lead to from where `path` starts. -/
def directoryAt (tree : Tree) (path : Path) (segments : List Name) : Except IoError Place := do
  let place ← tree.walk (tree.start path) segments
  match tree.node? place with
  | some .directory => .ok place
  | _ => .error .notDirectory

/-- Whether a path leads to anything. -/
def isPresent (tree : Tree) (path : Path) : Bool :=
  match tree.locate path with
  | .ok _ => true
  | .error _ => false

/-- Whether a path leads to a directory. -/
def isDirectoryPath (tree : Tree) (path : Path) : Bool :=
  match tree.locate path with
  | .ok place => tree.isDirectory place
  | .error _ => false

/-- The content of the file that a path leads to. -/
def readFile (tree : Tree) (path : Path) : Except IoError Bytes := do
  let place ← tree.locate path
  match tree.node? place with
  | some (.file content) => .ok content
  | some .directory => .error .isDirectory
  | none => .error .notFound

@[simp] theorem walk_nil (tree : Tree) (place : Place) : tree.walk place [] = .ok place := rfl

@[simp] theorem walk_cons (tree : Tree) (place : Place) (segment : Name) (rest : List Name) :
    tree.walk place (segment :: rest) =
      (tree.step place segment).bind fun next => tree.walk next rest := rfl

theorem walk_append (tree : Tree) (place : Place) (first second : List Name) :
    tree.walk place (first ++ second) =
      (tree.walk place first).bind fun next => tree.walk next second := by
  induction first generalizing place with
  | nil => rfl
  | cons segment rest ih =>
    simp only [List.cons_append, walk_cons]
    cases tree.step place segment with
    | error cause => rfl
    | ok next => exact ih next

end Tree

end ChainLaunchers
