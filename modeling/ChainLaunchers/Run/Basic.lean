/-
Module: ChainLaunchers.Run.Basic
Purpose: Runs: reading a source line by line, treating the lines, and what comes out.
Trusted boundary: none
Main exports:
  Run, Generator.readLines, Run.ledger, Outcome, Run.outcome, Generator.runOver, Generator.runFile
-/
import ChainLaunchers.Failure
import ChainLaunchers.Run.Ledger
import ChainLaunchers.Run.Source

namespace ChainLaunchers

/-- What a run has done by the time it ends. -/
structure Run where
  /-- The fates of the lines that were read. -/
  fates : List Fate
  /-- The tree that the run leaves. -/
  tree : Tree
  /-- Why the source could not be read to its end. -/
  unread : Option IoError

namespace Run

/-- The launcher that ended the run, with the cause. -/
def fatal? (run : Run) : Option (Launcher × IoError) := run.fates.findSome? Fate.fatal?

/-- The run with earlier fates in front. -/
def after (earlier : List Fate) (run : Run) : Run := { run with fates := earlier ++ run.fates }

end Run

namespace Generator

/-- Whether the run ends with these fates. -/
def stops (fates : List Fate) : Bool := (fates.findSome? Fate.fatal?).isSome

/-- Reads a source from an offset on and treats its lines.  `pending` is the unfinished line
that has been read before the offset.  A block is only read when all finished lines before it
have been treated, so it shows what these have written.  When the source fails, the unfinished
line is lost; when it ends, the unfinished line is treated, and the source is asked once
more. -/
def readLines (generator : Generator) (source : Source) (size : Nat) (tree : Tree)
    (offset : Nat) (pending : Bytes) : Run :=
  match _h : source.read tree offset size with
  | .error cause => ⟨[], tree, some cause⟩
  | .ok [] =>
    if pending = [] then ⟨[], tree, none⟩
    else
      match generator.treatAll tree [pending] with
      | (fates, after) =>
        if stops fates then ⟨fates, after, none⟩
        else (generator.readLines source size after offset []).after fates
  | .ok (byte :: bytes) =>
    match Line.cut (pending ++ byte :: bytes) with
    | (lines, unfinished) =>
      match generator.treatAll tree lines with
      | (fates, after) =>
        if stops fates then ⟨fates, after, none⟩
        else
          (generator.readLines source size after (offset + (byte :: bytes).length)
            unfinished).after fates
termination_by 2 * (source.extent - offset) + (if pending = [] then 0 else 1)
decreasing_by
  · simp_all
  · have within := Source.read_extent _h (by simp)
    simp only [List.length_cons] at within ⊢
    split <;> split <;> omega

/-- The size of the blocks in which a file is read. -/
def blockSize : Nat := 8192

/-- The run over a source. -/
def run (generator : Generator) (source : Source) (size : Nat) (tree : Tree) : Run :=
  generator.readLines source size tree 0 []

end Generator

/-! ### Outcomes -/

/-- What is seen of a run from outside. -/
structure Outcome where
  events : List Event
  tree : Tree
  result : Except Failure Report

namespace Run

/-- The ledger of a run, in which every line was entered. -/
def ledger (run : Run) (generator : Generator) : Ledger :=
  run.fates.foldl (Ledger.enter generator) (.opened generator)

/-- The result of a run over a source with the given label: the report, or the failure that
ended the run. -/
def result (run : Run) (generator : Generator) (label : Path) : Except Failure Report :=
  match run.fatal? with
  | some (launcher, cause) => .error (.outputWrite (generator.pathOf launcher) cause)
  | none =>
    match run.unread with
    | some cause => .error (.inputRead label cause)
    | none => .ok (run.ledger generator).report

/-- The events of a run.  The summary comes only if the run is complete. -/
def events (run : Run) (generator : Generator) (label : Path) : List Event :=
  (run.ledger generator).events ++
    match run.result generator label with
    | .ok report => [report.summary]
    | .error _ => []

/-- What is seen of the run from outside. -/
def outcome (run : Run) (generator : Generator) (label : Path) : Outcome :=
  ⟨run.events generator label, run.tree, run.result generator label⟩

end Run

namespace Generator

/-- A run over a source that is open already; `label` names it in failures. -/
def runOver (generator : Generator) (source : Source) (size : Nat) (label : Path)
    (tree : Tree) : Outcome :=
  (generator.run source size tree).outcome generator label

/-- A run over the file that a path leads to. -/
def runFile (generator : Generator) (path : Path) (tree : Tree) : Outcome :=
  match tree.openFile path with
  | .error cause => ⟨[], tree, .error (.inputOpen path cause)⟩
  | .ok source =>
    let outcome := generator.runOver source blockSize path tree
    { outcome with events := .reading path :: outcome.events }

end Generator

end ChainLaunchers
