/-
Module: ChainLaunchers.Proofs.Run.Prediction
Purpose: A dry run changes nothing and predicts the run that writes: the same figures, and the
  written and the failed paths together.
Trusted boundary: none
Main exports:
  Interleaves.eq_of_right_nil, Generator.planning, Generator.performing, Generator.plan,
  Generator.treatAll_planning, Generator.Predicts, Generator.dry_run_predicts
-/
import ChainLaunchers.Proofs.Run.Abort
import ChainLaunchers.Proofs.Run.Report

namespace ChainLaunchers

/-! ### Interleavings with one empty side -/

theorem Interleaves.eq_of_right_nil {α : Type} {left whole : List α}
    (interleaves : Interleaves left [] whole) : left = whole := by
  generalize none : ([] : List α) = right at interleaves
  induction interleaves with
  | nil => rfl
  | left member rest ih => rw [ih none]
  | right member rest ih => cases none

/-- One side is everything exactly if there is nothing on the other. -/
theorem Interleaves.left_eq_whole_iff {α : Type} {left right whole : List α}
    (interleaves : Interleaves left right whole) : left = whole ↔ right = [] := by
  constructor
  · rintro rfl
    apply List.length_eq_zero_iff.1
    have total := interleaves.length
    omega
  · rintro rfl
    exact interleaves.eq_of_right_nil

namespace Generator

variable {generator : Generator}

/-! ### Dry runs -/

/-- The generator that writes nothing and tells what it would write. -/
def planning (generator : Generator) : Generator := { generator with dryRun := true }

/-- The generator that writes, records what fails and goes on. -/
def performing (generator : Generator) : Generator :=
  { generator with dryRun := false, keepGoing := true }

/-- The fate of a line in a dry run. -/
def plan (generator : Generator) (line : Bytes) : Fate :=
  match generator.launcher? line with
  | none => .skipped
  | some launcher => .planned launcher

theorem refused?_plan (generator : Generator) (line : Bytes) :
    (generator.plan line).refused? = none := by
  unfold plan
  split
  · rfl
  · rfl

theorem fatal?_plan (generator : Generator) (line : Bytes) :
    (generator.plan line).fatal? = none := by
  unfold plan
  split
  · rfl
  · rfl

/-- A dry run plans a line and leaves the tree alone. -/
theorem treat_planning (generator : Generator) (tree : Tree) (line : Bytes) :
    generator.planning.treat tree line = (generator.plan line, tree) := by
  unfold plan
  cases found : generator.launcher? line with
  | none => exact @treat_skipped generator.planning tree line found
  | some launcher => exact @treat_planned generator.planning tree line rfl launcher found

/-- A dry run plans all lines and leaves the tree alone. -/
theorem treatAll_planning (generator : Generator) (tree : Tree) (lines : List Bytes) :
    generator.planning.treatAll tree lines = (lines.map generator.plan, tree) := by
  induction lines with
  | nil => rfl
  | cons line rest ih =>
      rw [treatAll_cons, treat_planning, fatal?_plan, Option.isSome_none,
        if_neg Bool.false_ne_true, ih, List.map_cons]

theorem stops_plan (generator : Generator) (lines : List Bytes) :
    stops (lines.map generator.plan) = false := by
  induction lines with
  | nil => rfl
  | cons line rest ih =>
      rw [List.map_cons, stops_cons, fatal?_plan, ih]
      rfl

theorem refusals_plan (generator : Generator) (lines : List Bytes) :
    (lines.map generator.plan).filterMap Fate.refused? = [] := by
  rw [List.filterMap_map, List.filterMap_eq_nil_iff]
  intro line _
  exact refused?_plan generator line

/-! ### Prediction -/

/-- What the report of a dry run says about the report of the run that writes. -/
structure Predicts (planned performed : Report) : Prop where
  unfailed : planned.failed = []
  linesRead : planned.linesRead = performed.linesRead
  linesMatched : planned.linesMatched = performed.linesMatched
  overwritten : planned.overwritten = performed.overwritten
  /-- The planned paths are the written and the failed ones, each in their order. -/
  paths : Interleaves performed.written (performed.failed.map FailedWrite.path) planned.written
  /-- They are the written ones exactly if nothing has failed. -/
  exact : planned.written = performed.written ↔ performed.failed = []

/-- Both reports add up for the same launchers, and nothing fails in a dry run. -/
theorem predicts_of_addsUp {lines : List Bytes} {planned performed : Report}
    (own : generator.planning.AddsUp lines planned)
    (other : generator.performing.AddsUp lines performed) (unfailed : planned.failed = []) :
    Predicts planned performed := by
  have everything : Interleaves planned.written []
      ((generator.launchers lines).map generator.pathOf) := by
    have paths := own.paths
    rw [unfailed] at paths
    exact paths
  have paths : Interleaves performed.written (performed.failed.map FailedWrite.path)
      ((generator.launchers lines).map generator.pathOf) := other.paths
  rw [← everything.eq_of_right_nil] at paths
  have matched := own.matched.trans other.matched.symm
  constructor
  · exact unfailed
  · exact own.read.trans other.read.symm
  · exact matched
  · have repeats := own.repeats.trans (matched.trans other.repeats.symm)
    exact Nat.add_right_cancel repeats
  · exact paths
  · rw [eq_comm, paths.left_eq_whole_iff, List.map_eq_nil_iff]

/-- A dry run predicts the run that writes.  It comes to a report, leaves the tree as it is and
has no failures; its figures are those of the run that writes and goes on after failures, and its
paths are the written and the failed ones of that run. -/
theorem dry_run_predicts (generator : Generator) (data : Bytes) {size : Nat} (positive : 0 < size)
    (label : Path) (tree : Tree) :
    ∃ planned performed,
      (generator.planning.runOver (.memory data none) size label tree).result = .ok planned ∧
        (generator.planning.runOver (.memory data none) size label tree).tree = tree ∧
        (generator.performing.runOver (.memory data none) size label tree).result =
          .ok performed ∧ Predicts planned performed := by
  have going : stops (generator.performing.treatAll tree (Line.ofData data)).1 = false :=
    stops_treatAll_of_keepGoing rfl tree _
  have treated := treatAll_planning generator tree (Line.ofData data)
  have goingDry : stops (generator.planning.treatAll tree (Line.ofData data)).1 = false := by
    rw [treated]
    exact stops_plan generator _
  rw [runOver, run_memory_none generator.planning positive, runOver,
    run_memory_none generator.performing positive]
  refine ⟨_, _, result_of_going goingDry label, ?_, result_of_going going label, ?_⟩
  · rw [treated]
    rfl
  · have unfailed : (Report.ofFates generator.planning
        (generator.planning.treatAll tree (Line.ofData data)).1).failed = [] := by
      rw [treated, Report.ofFates, refusals_plan]
      rfl
    exact predicts_of_addsUp (addsUp_of_going goingDry) (addsUp_of_going going) unfailed

/-- A launcher that is planned, and refused where a directory has its name. -/
theorem dry_run_predicts_where_name_is_taken : 0 < 8192 ∧
    ∃ planned performed,
      (standard.planning.runOver (.memory (Utf8.ofString
          "-ac_name=BEER\n-ac_name=DEX &\n-ac_name=beer -gen\n") none) 8192 [] taken).result =
            .ok planned ∧
        (standard.planning.runOver (.memory (Utf8.ofString
          "-ac_name=BEER\n-ac_name=DEX &\n-ac_name=beer -gen\n") none) 8192 [] taken).tree =
            taken ∧
        (standard.performing.runOver (.memory (Utf8.ofString
          "-ac_name=BEER\n-ac_name=DEX &\n-ac_name=beer -gen\n") none) 8192 [] taken).result =
            .ok performed ∧ Predicts planned performed :=
  ⟨by decide, dry_run_predicts standard _ (by decide) [] taken⟩

end Generator

end ChainLaunchers
