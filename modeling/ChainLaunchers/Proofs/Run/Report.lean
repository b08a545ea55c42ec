/-
Module: ChainLaunchers.Proofs.Run.Report
Purpose: A run over data is the fold of its lines, whatever the size of the blocks, and the
  figures of its report add up.
Trusted boundary: none
Main exports:
  Interleaves, Generator.interleaves_fates, countRepeated_add_distinct, Generator.AddsUp,
  Generator.Folds, Generator.folds_lines
-/
import ChainLaunchers.Proofs.Run.Reading
import Mathlib.Data.Finset.Card
import Mathlib.Data.Finset.Dedup

namespace ChainLaunchers

/-! ### Interleaving -/

/-- The members of `left` and of `right`, each in their order, make up `whole`. -/
inductive Interleaves {α : Type} : (left right whole : List α) → Prop where
  | nil : Interleaves [] [] []
  | left (member : α) {left right whole : List α} (rest : Interleaves left right whole) :
      Interleaves (member :: left) right (member :: whole)
  | right (member : α) {left right whole : List α} (rest : Interleaves left right whole) :
      Interleaves left (member :: right) (member :: whole)

theorem Interleaves.length {α : Type} {left right whole : List α}
    (interleaves : Interleaves left right whole) :
    left.length + right.length = whole.length := by
  induction interleaves with
  | nil => rfl
  | left member rest ih =>
      rw [List.length_cons, List.length_cons, ← ih]
      omega
  | right member rest ih =>
      rw [List.length_cons, List.length_cons, ← ih]
      omega

theorem Interleaves.map {α β : Type} (f : α → β) {left right whole : List α}
    (interleaves : Interleaves left right whole) :
    Interleaves (left.map f) (right.map f) (whole.map f) := by
  induction interleaves with
  | nil => exact Interleaves.nil
  | left member rest ih => exact Interleaves.left (f member) ih
  | right member rest ih => exact Interleaves.right (f member) ih

/-! ### Repeated names -/

/-- The members that occur earlier and the distinct ones that are new make up all members. -/
theorem countRepeated_add_new (seen names : List Name) :
    countRepeated seen names + (names.toFinset \ seen.toFinset).card = names.length := by
  induction names generalizing seen with
  | nil => simp [countRepeated]
  | cons name rest ih =>
      have others := ih (name :: seen)
      rw [List.toFinset_cons] at others
      rw [countRepeated, List.toFinset_cons, List.length_cons, ← others]
      by_cases repeated : name ∈ seen
      · rw [if_pos repeated, Finset.insert_sdiff_of_mem _ (List.mem_toFinset.2 repeated),
          Finset.insert_eq_of_mem (List.mem_toFinset.2 repeated)]
        omega
      · have first : insert name rest.toFinset \ seen.toFinset =
            insert name (rest.toFinset \ insert name seen.toFinset) := by
          rw [Finset.insert_sdiff_of_notMem _ (mt List.mem_toFinset.1 repeated)]
          ext other
          by_cases same : other = name <;> simp [same]
        rw [if_neg repeated, first, Finset.card_insert_of_notMem (by simp)]
        omega

/-- Names are repeated as often as there are more of them than distinct ones. -/
theorem countRepeated_add_distinct (names : List Name) :
    countRepeated [] names + names.toFinset.card = names.length := by
  have new := countRepeated_add_new [] names
  rwa [List.toFinset_nil, Finset.sdiff_empty] at new

namespace Generator

variable {generator : Generator}

/-! ### Fates of lines -/

/-- The fate of a line carries the launcher of the line. -/
theorem treat_launcher? (generator : Generator) (tree : Tree) (line : Bytes) :
    (generator.treat tree line).1.launcher? = generator.launcher? line := by
  have step := treated_treat generator tree line
  generalize generator.treat tree line = treated at step ⊢
  cases step with
  | skipped unnamed => exact unnamed.symm
  | planned found dry => exact found.symm
  | written found real written => exact found.symm
  | failed found real failed =>
      split
      · exact found.symm
      · exact found.symm

/-- If no line is fatal, every line has its fate. -/
theorem treatAll_launcher? {tree : Tree} {lines : List Bytes}
    (going : stops (generator.treatAll tree lines).1 = false) :
    (generator.treatAll tree lines).1.map Fate.launcher? = lines.map generator.launcher? := by
  induction lines generalizing tree with
  | nil => rfl
  | cons line rest ih =>
      rw [treatAll_cons] at going ⊢
      split at going
      · rename_i fatal
        rw [stops_cons, fatal, Bool.true_or] at going
        cases going
      · rename_i harmless
        rw [if_neg harmless, List.map_cons, List.map_cons, treat_launcher?]
        rw [stops_cons, Bool.or_eq_false_iff] at going
        rw [ih going.2]

/-- If no line is fatal, the launchers of the fates are those of the lines. -/
theorem filterMap_launcher? {tree : Tree} {lines : List Bytes}
    (going : stops (generator.treatAll tree lines).1 = false) :
    (generator.treatAll tree lines).1.filterMap Fate.launcher? = generator.launchers lines := by
  have same := congrArg (List.filterMap id) (treatAll_launcher? going)
  rwa [List.filterMap_map, List.filterMap_map] at same

/-- What is done and what is refused make up the launchers, unless one was fatal. -/
theorem interleaves_fates {fates : List Fate} (going : stops fates = false) :
    Interleaves (fates.filterMap Fate.done?) ((fates.filterMap Fate.refused?).map Prod.fst)
      (fates.filterMap Fate.launcher?) := by
  induction fates with
  | nil => exact Interleaves.nil
  | cons fate rest ih =>
      rw [stops_cons, Bool.or_eq_false_iff] at going
      have others := ih going.2
      cases fate with
      | skipped => exact others
      | planned launcher => exact Interleaves.left launcher others
      | written launcher => exact Interleaves.left launcher others
      | refused launcher cause => exact Interleaves.right launcher others
      | fatal launcher cause =>
          obtain ⟨harmless, -⟩ := going
          cases harmless

/-! ### Reports -/

/-- The figures of a report, for the lines that were read. -/
structure AddsUp (generator : Generator) (lines : List Bytes) (report : Report) : Prop where
  read : report.linesRead = lines.length
  matched : report.linesMatched = lines.countP fun line => (generator.launcher? line).isSome
  total : report.written.length + report.failed.length = report.linesMatched
  /-- Written and failed paths, each in the order of their lines, are the paths of all
  launchers. -/
  paths : Interleaves report.written (report.failed.map FailedWrite.path)
    ((generator.launchers lines).map generator.pathOf)
  repeats : report.overwritten +
      ((generator.launchers lines).map Launcher.fileName).toFinset.card =
    report.linesMatched

theorem addsUp_of_going {tree : Tree} {lines : List Bytes}
    (going : stops (generator.treatAll tree lines).1 = false) :
    generator.AddsUp lines (Report.ofFates generator (generator.treatAll tree lines).1) := by
  have fates := treatAll_launcher? going
  have launchers := filterMap_launcher? going
  have paths := (interleaves_fates going).map generator.pathOf
  rw [launchers, ← failed_ofFates] at paths
  constructor
  · have same := congrArg List.length fates
    rwa [List.length_map, List.length_map] at same
  · rw [Report.ofFates, launchers, Generator.launchers, List.length_filterMap_eq_countP]
  · have total := paths.length
    simpa only [Report.ofFates, launchers, List.length_map] using total
  · exact paths
  · rw [Report.ofFates, launchers, countRepeated_add_distinct, List.length_map]

/-! ### Whole runs -/

/-- A run that comes to a report has met no fatal line, and its source has not failed. -/
theorem going_of_result {run : Run} (label : Path) {report : Report}
    (completed : run.result generator label = .ok report) :
    stops run.fates = false ∧ run.unread = none ∧ Report.ofFates generator run.fates = report := by
  cases going : stops run.fates with
  | true =>
      obtain ⟨⟨launcher, cause⟩, fatal⟩ := Option.isSome_iff_exists.1 going
      rw [Run.result, Run.fatal?, fatal] at completed
      cases completed
  | false =>
      rw [result_of_going going] at completed
      cases unread : run.unread with
      | none =>
          rw [unread] at completed
          exact ⟨rfl, rfl, Except.ok.inj completed⟩
      | some cause =>
          rw [unread] at completed
          cases completed

/-- Runs over data treat its lines one after another, whatever the size of the blocks. -/
structure Folds (generator : Generator) (data : Bytes) (label : Path) (tree : Tree) : Prop where
  /-- The lines are the only way to cut the data after line feeds. -/
  lines : ∀ pieces, Line.Decomposes data pieces ↔ pieces = Line.ofData data
  fold : ∀ size, 0 < size → generator.run (.memory data none) size tree =
    ⟨(generator.treatAll tree (Line.ofData data)).1,
      (generator.treatAll tree (Line.ofData data)).2, none⟩
  /-- Report, events and tree do not depend on the size of the blocks. -/
  sizes : ∀ size size', 0 < size → 0 < size' →
    generator.runOver (.memory data none) size label tree =
      generator.runOver (.memory data none) size' label tree
  completed : ∀ size report, 0 < size →
    (generator.runOver (.memory data none) size label tree).result = .ok report →
    generator.AddsUp (Line.ofData data) report

/-- A run is the fold of its lines, and the report of a complete run adds up. -/
theorem folds_lines (generator : Generator) (data : Bytes) (label : Path) (tree : Tree) :
    generator.Folds data label tree := by
  constructor
  · intro pieces
    exact Line.decomposes_iff
  · intro size positive
    exact run_memory_none generator positive data tree
  · intro size size' positive positive'
    rw [runOver, runOver, run_memory_none generator positive, run_memory_none generator positive']
  · intro size report positive completed
    rw [runOver, run_memory_none generator positive] at completed
    obtain ⟨going, -, rfl⟩ := going_of_result label completed
    exact addsUp_of_going going

end Generator

end ChainLaunchers
