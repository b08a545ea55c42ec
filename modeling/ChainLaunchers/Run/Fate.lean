/-
Module: ChainLaunchers.Run.Fate
Purpose: What becomes of each line of a run.
Trusted boundary: none
Main exports:
  Fate, Fate.fatal?, Generator.treat, Generator.treatAll
-/
import ChainLaunchers.Generator
import ChainLaunchers.Tree.Change

namespace ChainLaunchers

/-!
### Fates

The fate of a line depends on the tree that the lines before it have left, and on nothing else
of the run.  Everything that a run reports and logs follows from the fates of its lines.
-/

/-- What became of a line. -/
inductive Fate where
  /-- The line carries no chain name. -/
  | skipped
  /-- Its launcher would have been written. -/
  | planned (launcher : Launcher)
  /-- Its launcher was written. -/
  | written (launcher : Launcher)
  /-- Its launcher could not be written, and the run went on. -/
  | refused (launcher : Launcher) (cause : IoError)
  /-- Its launcher could not be written, and the run ended there. -/
  | fatal (launcher : Launcher) (cause : IoError)
deriving Repr, DecidableEq, Inhabited

namespace Fate

/-- The launcher of the line. -/
def launcher? : Fate → Option Launcher
  | .skipped => none
  | .planned launcher | .written launcher | .refused launcher _ | .fatal launcher _ =>
    some launcher

/-- The launcher, if it was written or would have been. -/
def done? : Fate → Option Launcher
  | .planned launcher | .written launcher => some launcher
  | _ => none

/-- The launcher that could not be written although the run went on, with the cause. -/
def refused? : Fate → Option (Launcher × IoError)
  | .refused launcher cause => some (launcher, cause)
  | _ => none

/-- The launcher that ended the run, with the cause. -/
def fatal? : Fate → Option (Launcher × IoError)
  | .fatal launcher cause => some (launcher, cause)
  | _ => none

end Fate

namespace Generator

/-- Treats one line: its fate, and the tree afterwards. -/
def treat (generator : Generator) (tree : Tree) (line : Bytes) : Fate × Tree :=
  match generator.launcher? line with
  | none => (.skipped, tree)
  | some launcher =>
    if generator.dryRun then (.planned launcher, tree)
    else
      match tree.writeFile (generator.pathOf launcher) launcher.content with
      | ⟨after, none⟩ => (.written launcher, after)
      | ⟨after, some cause⟩ =>
        (if generator.keepGoing then .refused launcher cause else .fatal launcher cause, after)

/-- Treats lines in their order, up to the first fatal one. -/
def treatAll (generator : Generator) (tree : Tree) : List Bytes → List Fate × Tree
  | [] => ([], tree)
  | line :: rest =>
    match generator.treat tree line with
    | (.fatal launcher cause, after) => ([.fatal launcher cause], after)
    | (fate, after) =>
      let (fates, last) := generator.treatAll after rest
      (fate :: fates, last)

end Generator

end ChainLaunchers
