/-
Module: ChainLaunchers.Run.Ledger
Purpose: The books of a run: its report, the file names so far and what it has told, brought up to
  date after every line.
Trusted boundary: none
Main exports:
  FailedWrite, Report, Report.hasFailures, Report.summary, Ledger, Ledger.opened, Ledger.enter
-/
import ChainLaunchers.Event
import ChainLaunchers.Run.Fate

namespace ChainLaunchers

/-! ### Reports -/

/-- A launcher that could not be written. -/
structure FailedWrite where
  path : Path
  cause : IoError
deriving Repr, DecidableEq, Inhabited

/-- The summary of a complete run. -/
structure Report where
  linesRead : Nat
  linesMatched : Nat
  /-- The files written, or planned in a dry run, in the order of their lines; a file that is
  written again stands here again. -/
  written : List Path
  /-- How many lines have the file name of an earlier line. -/
  overwritten : Nat
  failed : List FailedWrite
  dryRun : Bool
deriving Repr, DecidableEq, Inhabited

/-- Whether a launcher could not be written. -/
def Report.hasFailures (report : Report) : Bool := !report.failed.isEmpty

/-- What a complete run tells at its end. -/
def Report.summary (report : Report) : Event :=
  .finished report.linesRead report.linesMatched report.written.length report.failed.length

/-! ### Ledgers -/

/-- The books of a run that has treated some of its lines. -/
structure Ledger where
  report : Report
  /-- The file names of the lines so far, the latest one first. -/
  seen : List Name
  /-- What was told so far. -/
  events : List Event

namespace Ledger

/-- The ledger of a run that has treated no line yet. -/
def opened (generator : Generator) : Ledger where
  report :=
    { linesRead := 0, linesMatched := 0, written := [], overwritten := 0, failed := []
      dryRun := generator.dryRun }
  seen := []
  events := []

/-- Tells an event. -/
def tell (ledger : Ledger) (event : Event) : Ledger :=
  { ledger with events := ledger.events ++ [event] }

/-- Counts a line as read. -/
def countRead (ledger : Ledger) : Ledger :=
  { ledger with report.linesRead := ledger.report.linesRead + 1 }

/-- Counts a line with this file name as matched, and as a repetition if an earlier line has the
same name. -/
def countMatched (ledger : Ledger) (fileName : Name) : Ledger :=
  let matched := { ledger with
    report.linesMatched := ledger.report.linesMatched + 1
    seen := fileName :: ledger.seen }
  if ledger.seen.contains fileName then
    { matched with report.overwritten := ledger.report.overwritten + 1 }.tell
      (.repeated ledger.report.linesRead fileName)
  else matched

/-- Records a file as written, or as planned. -/
def recordDone (ledger : Ledger) (path : Path) : Ledger :=
  { ledger with report.written := ledger.report.written ++ [path] }

/-- Records a file as one that could not be written. -/
def recordFailed (ledger : Ledger) (failed : FailedWrite) : Ledger :=
  { ledger with report.failed := ledger.report.failed ++ [failed] }

/-- Tells and records what became of a line.  A launcher that ends the run is left to its
failure. -/
def record (generator : Generator) (ledger : Ledger) : Fate → Ledger
  | .skipped => ledger.tell (.skipped ledger.report.linesRead)
  | .planned launcher =>
    (ledger.tell (.planned (generator.pathOf launcher) launcher.content)).recordDone
      (generator.pathOf launcher)
  | .written launcher =>
    (ledger.tell (.wrote (generator.pathOf launcher))).recordDone (generator.pathOf launcher)
  | .refused launcher cause =>
    (ledger.tell (.refused (generator.pathOf launcher) cause)).recordFailed
      ⟨generator.pathOf launcher, cause⟩
  | .fatal _ _ => ledger

/-- Enters the fate of the next line. -/
def enter (generator : Generator) (ledger : Ledger) (fate : Fate) : Ledger :=
  match fate.launcher? with
  | none => ledger.countRead.record generator fate
  | some launcher => (ledger.countRead.countMatched launcher.fileName).record generator fate

end Ledger

end ChainLaunchers
