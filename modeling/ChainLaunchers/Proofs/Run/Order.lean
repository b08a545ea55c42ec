/-
Module: ChainLaunchers.Proofs.Run.Order
Purpose: The order of lines matters only among lines with the same file name: with other lines
  anywhere between them, a run leaves the same tree and reports the same in another order.
Trusted boundary: none
Main exports:
  Report.SameUpToOrder, Generator.Rearranges, Generator.Rearranges.exchange,
  Generator.depositAll_eq_of_sameByName, Generator.order_is_irrelevant_between_names
-/
import ChainLaunchers.Proofs.Run.Abort
import ChainLaunchers.Proofs.Run.Deposits
import ChainLaunchers.Proofs.Run.Report

namespace ChainLaunchers

/-- Two reports that differ at most in the order of what was written and of what has failed. -/
structure Report.SameUpToOrder (first second : Report) : Prop where
  linesRead : first.linesRead = second.linesRead
  linesMatched : first.linesMatched = second.linesMatched
  overwritten : first.overwritten = second.overwritten
  written : first.written.Perm second.written
  failed : (first.failed.map FailedWrite.path).Perm (second.failed.map FailedWrite.path)

theorem Line.ofData_flatten_of_finished {lines : List Bytes}
    (finished : ∀ line ∈ lines, Line.IsFinished line) : Line.ofData lines.flatten = lines := by
  have decomposes : Line.Decomposes lines.flatten lines := by
    refine ⟨rfl, ?_, ?_⟩
    · intro line mem
      exact finished line (List.dropLast_subset lines mem)
    · intro line mem
      exact Or.inl (finished line (List.mem_of_getLast? mem))
  exact (Line.decomposes_iff.1 decomposes).symm

namespace Generator

variable {generator : Generator}

/-! ### Rearranged lines -/

/-- The file name that a line gives. -/
def fileName? (generator : Generator) (line : Bytes) : Option Name :=
  (generator.launcher? line).map Launcher.fileName

/-- The same lines in another order, in which lines that give the same file name come one after
another as before. -/
structure Rearranges (generator : Generator) (lines lines' : List Bytes) : Prop where
  perm : lines.Perm lines'
  sameName : ∀ name, lines.filter (fun line => generator.fileName? line = some name) =
    lines'.filter fun line => generator.fileName? line = some name

/-- Neighbours with different file names, or without one, can be exchanged. -/
theorem Rearranges.exchange {first second : Bytes}
    (different : ∀ name, generator.fileName? first = some name →
      generator.fileName? second ≠ some name) (before after : List Bytes) :
    generator.Rearranges (before ++ first :: second :: after)
      (before ++ second :: first :: after) := by
  constructor
  · exact (List.Perm.swap second first after).append_left before
  · intro name
    rw [List.filter_append, List.filter_append]
    congr 1
    by_cases own : generator.fileName? first = some name
    · have other := different name own
      rw [List.filter_cons_of_pos (by simpa using own),
        List.filter_cons_of_neg (by simpa using other),
        List.filter_cons_of_neg (by simpa using other),
        List.filter_cons_of_pos (by simpa using own)]
    · rw [List.filter_cons_of_neg (by simpa using own), List.filter_cons, List.filter_cons,
        List.filter_cons_of_neg (by simpa using own)]

/-- The launchers of the lines that give a file name are the launchers with this name. -/
theorem launchers_filter (generator : Generator) (lines : List Bytes) (name : Name) :
    generator.launchers (lines.filter fun line => generator.fileName? line = some name) =
      (generator.launchers lines).filter fun launcher => launcher.fileName = name := by
  induction lines with
  | nil => rfl
  | cons line rest ih =>
      cases found : generator.launcher? line with
      | none =>
          rw [List.filter_cons_of_neg (by simp [fileName?, found]), ih, launchers_cons_none found]
      | some launcher =>
          rw [launchers_cons_some found]
          by_cases own : launcher.fileName = name
          · rw [List.filter_cons_of_pos (by simp [fileName?, found, own]),
              launchers_cons_some found, ih, List.filter_cons_of_pos (by simpa using own)]
          · rw [List.filter_cons_of_neg (by simp [fileName?, found, own]), ih,
              List.filter_cons_of_neg (by simpa using own)]

/-! ### Deposits in another order -/

/-- Two lists of launchers that agree on each file name. -/
def SameByName (launchers launchers' : List Launcher) : Prop :=
  ∀ name, launchers.filter (fun launcher => launcher.fileName = name) =
    launchers'.filter fun launcher => launcher.fileName = name

theorem Rearranges.sameByName {lines lines' : List Bytes}
    (rearranges : generator.Rearranges lines lines') :
    SameByName (generator.launchers lines) (generator.launchers lines') := by
  intro name
  rw [← launchers_filter, ← launchers_filter, rearranges.sameName name]

theorem Rearranges.launchers_perm {lines lines' : List Bytes}
    (rearranges : generator.Rearranges lines lines') :
    (generator.launchers lines).Perm (generator.launchers lines') :=
  rearranges.perm.filterMap generator.launcher?

theorem SameByName.aimedAt {launchers launchers' : List Launcher}
    (same : SameByName launchers launchers') (generator : Generator) (tree : Tree)
    (place : Place) :
    generator.aimedAt tree place launchers = generator.aimedAt tree place launchers' := by
  by_cases aimed : ∃ name, tree.target? generator.outputDirectory name = some place
  · obtain ⟨name, target⟩ := aimed
    rw [aimedAt_of_target target, aimedAt_of_target target, same name]
  · have nothing : ∀ others, generator.aimedAt tree place others = [] := by
      intro others
      apply List.filter_eq_nil_iff.2
      intro launcher _ own
      exact aimed ⟨launcher.fileName, of_decide_eq_true own⟩
    rw [nothing, nothing]

/-- The same launchers, in an order that agrees on each file name, leave the same tree. -/
theorem depositAll_eq_of_sameByName {launchers launchers' : List Launcher}
    (perm : launchers.Perm launchers') (same : SameByName launchers launchers') (tree : Tree) :
    generator.depositAll tree launchers = generator.depositAll tree launchers' := by
  by_cases none : launchers = []
  · subst none
    rw [List.nil_perm.1 perm]
  · have none' : launchers' ≠ [] := by
      rintro rfl
      exact none (List.perm_nil.1 perm)
    apply Tree.ext_of_fileAt?
    · intro place
      rw [fileAt?_depositAll, fileAt?_depositAll, same.aimedAt]
    · intro place
      rw [isDirectory_depositAll_of_ne_nil tree none, isDirectory_depositAll_of_ne_nil tree none']
    · rw [(keepsDirectories_depositAll generator tree launchers).working,
        (keepsDirectories_depositAll generator tree launchers').working]

/-! ### Whole runs -/

/-- What lines come to in another order is reported in another order. -/
theorem sameUpToOrder_of_perm {tree : Tree} {lines lines' : List Bytes}
    (perm : lines.Perm lines')
    (treats : generator.Treats tree (generator.launchers lines) (generator.treatAll tree lines))
    (treats' : generator.Treats tree (generator.launchers lines')
      (generator.treatAll tree lines')) :
    (Report.ofFates generator (generator.treatAll tree lines).1).SameUpToOrder
      (Report.ofFates generator (generator.treatAll tree lines').1) := by
  have launchers : (generator.launchers lines).Perm (generator.launchers lines') :=
    perm.filterMap generator.launcher?
  have own := addsUp_of_going treats.going
  have other := addsUp_of_going treats'.going
  have names := List.toFinset_eq_of_perm _ _ (launchers.map Launcher.fileName)
  have matched := own.matched.trans ((perm.countP_eq _).trans other.matched.symm)
  constructor
  · exact own.read.trans (perm.length_eq.trans other.read.symm)
  · exact matched
  · have repeats := own.repeats.trans (matched.trans other.repeats.symm)
    rw [names] at repeats
    exact Nat.add_right_cancel repeats
  · rw [treats.written, treats'.written]
    exact (launchers.filter _).map generator.pathOf
  · rw [treats.failed, treats'.failed]
    exact (launchers.filter _).map generator.pathOf

/-- Only lines with the same file name have an order that matters.  Where failing writes are
recorded, runs over the same finished lines in two orders that agree on each file name leave the
same tree, and their reports differ in the order of their paths alone. -/
theorem order_is_irrelevant_between_names (accepted : generator.IsAccepted)
    (real : generator.dryRun = false) (going : generator.keepGoing = true)
    {lines lines' : List Bytes} (finished : ∀ line ∈ lines, Line.IsFinished line)
    (rearranges : generator.Rearranges lines lines') {size : Nat} (positive : 0 < size)
    (label : Path) (tree : Tree) :
    ∃ report report',
      (generator.runOver (.memory lines.flatten none) size label tree).result = .ok report ∧
      (generator.runOver (.memory lines'.flatten none) size label tree).result = .ok report' ∧
      (generator.runOver (.memory lines.flatten none) size label tree).tree =
        (generator.runOver (.memory lines'.flatten none) size label tree).tree ∧
      report.SameUpToOrder report' := by
  have finished' : ∀ line ∈ lines', Line.IsFinished line := by
    intro line mem
    exact finished line (rearranges.perm.mem_iff.2 mem)
  have treats := treats_treatAll accepted real going tree lines
  have treats' := treats_treatAll accepted real going tree lines'
  rw [runOver, run_memory_none generator positive, Line.ofData_flatten_of_finished finished,
    runOver, run_memory_none generator positive, Line.ofData_flatten_of_finished finished']
  refine ⟨_, _, result_of_going treats.going label, result_of_going treats'.going label, ?_,
    sameUpToOrder_of_perm rearranges.perm treats treats'⟩
  exact (treats.last.trans (depositAll_eq_of_sameByName rearranges.launchers_perm
    rearranges.sameByName tree)).trans treats'.last.symm

/-- Two lines of one chain, and between them one whose launcher is refused. -/
def scattered : List Bytes :=
  [Utf8.ofString "-ac_name=BEER\n", Utf8.ofString "-ac_name=DEX &\n",
    Utf8.ofString "-ac_name=beer -gen\n"]

/-- The same lines, with the two of one chain next to each other. -/
def gathered : List Bytes :=
  [Utf8.ofString "-ac_name=DEX &\n", Utf8.ofString "-ac_name=BEER\n",
    Utf8.ofString "-ac_name=beer -gen\n"]

theorem rearranges_scattered :
    { standard with keepGoing := true }.Rearranges scattered gathered := by
  apply Rearranges.exchange _ []
  intro name own other
  have different : { standard with keepGoing := true }.fileName? (Utf8.ofString "-ac_name=BEER\n") ≠
      { standard with keepGoing := true }.fileName? (Utf8.ofString "-ac_name=DEX &\n") := by decide
  exact different (own.trans other.symm)

theorem isFinished_scattered : ∀ line ∈ scattered, Line.IsFinished line := by
  simp only [scattered, List.forall_mem_cons]
  exact ⟨⟨Utf8.ofString "-ac_name=BEER", by decide, by decide⟩,
    ⟨Utf8.ofString "-ac_name=DEX &", by decide, by decide⟩,
    ⟨Utf8.ofString "-ac_name=beer -gen", by decide, by decide⟩, List.forall_mem_nil _⟩

/-- The line between the others is moved to the front. -/
theorem order_is_irrelevant_where_name_is_taken :
    (∀ line ∈ scattered, Line.IsFinished line) ∧
    { standard with keepGoing := true }.Rearranges scattered gathered ∧
    ∃ report report',
      ({ standard with keepGoing := true }.runOver (.memory scattered.flatten none) 8192 []
        taken).result = .ok report ∧
      ({ standard with keepGoing := true }.runOver (.memory gathered.flatten none) 8192 []
        taken).result = .ok report' ∧
      ({ standard with keepGoing := true }.runOver (.memory scattered.flatten none) 8192 []
          taken).tree =
        ({ standard with keepGoing := true }.runOver (.memory gathered.flatten none) 8192 []
          taken).tree ∧
      report.SameUpToOrder report' :=
  ⟨isFinished_scattered, rearranges_scattered,
    order_is_irrelevant_between_names (isAccepted_standard false true) rfl rfl
      isFinished_scattered rearranges_scattered (by decide) [] taken⟩

end Generator

end ChainLaunchers
