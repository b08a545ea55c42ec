/-
Module: ChainLaunchers.Main
Purpose: The program: it looks at the files that an invocation depends on, performs the
  invocation on them, and carries out the changes.
Trusted boundary: the disk, the environment and the streams of the process
Main exports:
  main
-/
import ChainLaunchers.CommandLine.Invocation

namespace ChainLaunchers

namespace Main

/-! ### Looking at the disk

An invocation is a function on trees.  What it can look at is taken into a tree beforehand. -/

/-- The path of a place on the disk.  The disk is reached by paths that are text. -/
def diskPath? (place : Place) : Option String :=
  Utf8.toString? (Path.separator :: Bytes.joinWith Path.separator place)

/-- What stands at a place on the disk. -/
def look (place : Place) : IO (Option Tree.Node) := do
  match diskPath? place with
  | none => return none
  | some path =>
    match ← (IO.FS.readBinFile path).toBaseIO with
    | .ok content => return some (.file content.toList)
    | .error (.inappropriateType ..) => return some .directory
    | .error _ => return none

/-- Takes an entry of a directory into the tree. -/
def lookAt (tree : Tree) (directory : Place) (name : Name) : IO Tree := do
  if (tree.node? (directory ++ [name])).isSome then return tree
  match ← look (directory ++ [name]) with
  | some node => return tree.put directory name node
  | none => return tree

/-- Takes into the tree what lies on the way from a place. -/
def lookAlong (tree : Tree) (place : Place) : List Name → IO Tree
  | [] => return tree
  | segment :: rest =>
    if Path.isFiller segment then lookAlong tree place rest
    else if segment = Path.above then lookAlong tree place.dropLast rest
    else do
      let seen ← lookAt tree place segment
      lookAlong seen (place ++ [segment]) rest

/-- Takes into the tree what a path leads through, and what it leads to. -/
def lookAlongPath (tree : Tree) (path : Path) : IO Tree :=
  lookAlong tree (tree.start path) (Path.segments path)

/-- The working directory with the environment files that could count. -/
def surroundings : IO Tree := do
  let path := Utf8.ofString (← IO.currentDir).toString
  let place := (Path.segments path).filter fun segment => !Path.isFiller segment
  let seen ← lookAlong .root [] place
  let directories := (List.range (place.length + 1)).map place.take
  let complete ← directories.foldlM (fun tree directory =>
    lookAt tree directory environmentFileName) seen
  return complete.workAt place

/-- The environment of the process. -/
def processEnvironment : IO Environment := do
  match ← (IO.FS.readBinFile "/proc/self/environ").toBaseIO with
  | .ok block => return .ofBlock block.toList
  | .error _ =>
    match ← IO.getEnv inputVariable with
    | some text => return [(Utf8.ofString inputVariable, Utf8.ofString text)]
    | none => return []

/-- The tree with all that the invocation depends on.  First comes what it reads; what it
writes to is found by performing it on that. -/
def survey (arguments : List Bytes) (environment : Environment) (tree : Tree) : IO Tree := do
  match Request.ofArguments arguments, environment.extended? tree with
  | .run options, some extended =>
    let known ← lookAlongPath tree options.settingsPath
    match options.effectiveSettings (extended.text? inputVariable) known with
    | .error _ => return known
    | .ok settings =>
      let readable ← lookAlongPath known settings.input
      let rehearsal := Invocation.perform arguments environment readable
      rehearsal.events.foldlM (fun seen event =>
        match event with
        | .wrote path => lookAlongPath seen path
        | _ => return seen) readable
  | _, _ => return tree

/-! ### Carrying out the changes -/

/-- Makes the directories that are new in the tree; each comes after the one it lies in. -/
def makeDirectories (before after : Tree) : IO Unit :=
  after.entries.forM fun (place, node) =>
    match node, before.node? place, diskPath? place with
    | .directory, none, some path => IO.FS.createDir path
    | _, _, _ => pure ()

/-- Writes the file that a path leads to as it stands in the tree. -/
def writeOut (tree : Tree) (path : Path) : IO Unit :=
  match tree.locate path with
  | .error _ => pure ()
  | .ok place =>
    match tree.node? place, diskPath? place with
    | some (.file content), some text => IO.FS.writeBinFile text ⟨content.toArray⟩
    | _, _ => pure ()

/-- Carries out the changes of an invocation. -/
def carryOut (before : Tree) (result : Invocation.Result) : IO Unit := do
  makeDirectories before result.tree
  result.events.forM fun
    | .wrote path => writeOut result.tree path
    | _ => pure ()

/-- The log of an invocation: its events but for those that only help to find faults. -/
def log (events : List Event) : IO Unit :=
  (events.filter fun event => event.level ≠ .debug).forM fun event => IO.eprintln event.text

end Main

end ChainLaunchers

open ChainLaunchers in
/-- Performs the invocation with the given arguments. -/
def main (arguments : List String) : IO UInt32 := do
  let given := arguments.map Utf8.ofString
  let environment ← Main.processEnvironment
  let tree ← Main.survey given environment (← Main.surroundings)
  let result := Invocation.perform given environment tree
  Main.carryOut tree result
  Main.log result.events
  IO.print result.output
  match result.error with
  | some text => IO.eprintln text
  | none => pure ()
  return UInt32.ofNat result.status
