/-
Module: ChainLaunchers.Tree.Change
Purpose: The operations that change a tree: creating directories, writing files, removing.
Trusted boundary: the effects and failures of the operations, which restate those of the operating
  system.
Main exports:
  Path.split, Tree.createDirectory, Tree.createFile, Tree.createDirectories, Tree.writeFile,
  Tree.remove, Tree.manifest
-/
import ChainLaunchers.Tree.Walk

namespace ChainLaunchers

/-!
An operation that makes an entry treats the last segment of its path apart: the segments before
it have to lead to a directory, and the entry gets its name from the last one.
-/

/-- A path cut before its last segment. -/
structure Path.Split where
  /-- The segments before the last one. -/
  directory : List Name
  /-- The last segment that is not empty, or the empty name if all are. -/
  name : Name
  /-- Whether separators follow the last segment. -/
  trailing : Bool
deriving Repr, DecidableEq

/-- Cuts a path before its last segment. -/
def Path.split (path : Path) : Path.Split :=
  let named := (path.segments.reverse.dropWhile (· = [])).reverse
  ⟨named.dropLast, named.getLast?.getD [], path.getLast? = some separator⟩

/-- The last segments that name no entry of the directory before them. -/
def Path.isSpecial (name : Name) : Bool := name = [] || name = here || name = above

namespace Tree

/-- Makes an empty directory. -/
def createDirectory (tree : Tree) (path : Path) : Except IoError Tree := do
  path.check
  let parts := path.split
  let directory ← tree.directoryAt path parts.directory
  if Path.isSpecial parts.name then .error .alreadyExists
  else if Name.limit < parts.name.length then .error .nameTooLong
  else if (tree.node? (directory ++ [parts.name])).isSome then .error .alreadyExists
  else .ok (tree.put directory parts.name .directory)

/-- Writes a file into a directory that exists, in place of an older file of that name. -/
def createFile (tree : Tree) (path : Path) (content : Bytes) : Except IoError Tree := do
  path.check
  let parts := path.split
  let directory ← tree.directoryAt path parts.directory
  if Path.isSpecial parts.name || parts.trailing then .error .isDirectory
  else if Name.limit < parts.name.length then .error .nameTooLong
  else if tree.node? (directory ++ [parts.name]) = some .directory then .error .isDirectory
  else .ok (tree.put directory parts.name (.file content))

/-- The state after an operation that may have changed the tree before it failed. -/
structure Attempt where
  tree : Tree
  failure : Option IoError

/-- Makes the first of the paths a directory.  The others are its lexical ancestors, the
longest first, and are made where they are missing. -/
def createChain (tree : Tree) : List Path → Attempt
  | [] => ⟨tree, none⟩
  | path :: ancestors =>
    match tree.createDirectory path with
    | .ok made => ⟨made, none⟩
    | .error .notFound =>
      match tree.createChain ancestors with
      | ⟨partly, some cause⟩ => ⟨partly, some cause⟩
      | ⟨prepared, none⟩ =>
        match prepared.createDirectory path with
        | .ok made => ⟨made, none⟩
        | .error cause =>
          if prepared.isDirectoryPath path then ⟨prepared, none⟩ else ⟨prepared, some cause⟩
    | .error cause => if tree.isDirectoryPath path then ⟨tree, none⟩ else ⟨tree, some cause⟩

/-- Makes a directory and the lexical ancestors of its path.  A directory that is there
already is no failure. -/
def createDirectories (tree : Tree) (path : Path) : Attempt := tree.createChain path.ancestors

/-- Writes a file after making the directories that the parent of its path names. -/
def writeFile (tree : Tree) (path : Path) (content : Bytes) : Attempt :=
  match tree.createDirectories (path.parent?.getD []) with
  | ⟨partly, some cause⟩ => ⟨partly, some cause⟩
  | ⟨prepared, none⟩ =>
    match prepared.createFile path content with
    | .ok written => ⟨written, none⟩
    | .error cause => ⟨prepared, some cause⟩

/-- Removes a file, or a directory with all that is below it.  What is below goes first, and
that can take away the way along which the path leads: then the directory stays, and no failure
is reported.  A directory cannot be removed by its own `.`, nor as long as the working directory
is there or below. -/
def remove (tree : Tree) (path : Path) : Attempt :=
  match tree.locate path with
  | .error cause => ⟨tree, some cause⟩
  | .ok place =>
    if tree.isDirectory place then
      let cleared := tree.clear place
      match cleared.directoryAt path path.split.directory with
      | .error .notFound => ⟨cleared, none⟩
      | .error cause => ⟨cleared, some cause⟩
      | .ok _ =>
        if path.split.name = Path.here then ⟨cleared, some .invalidArgument⟩
        else if place.isPrefixOf tree.workingPlace then ⟨cleared, some .notEmpty⟩
        else ⟨cleared.removeBelow place, none⟩
    else ⟨tree.removeBelow place, none⟩

/-! ### Listing -/

/-- The entries below the working directory by their paths from there, in the order of the
paths.  The path of a directory ends with a separator, and there is no content. -/
def manifest (tree : Tree) : List (Path × Option Bytes) :=
  (tree.belowWorking.map fun (place, node) =>
    match node with
    | .directory => (Bytes.joinWith Path.separator place ++ [Path.separator], none)
    | .file content => (Bytes.joinWith Path.separator place, some content)).mergeSort
    fun first second => decide (first.1 ≤ second.1)

end Tree

end ChainLaunchers
