/-
Module: ChainLaunchers.Proofs.Run.Success
Purpose: Runs in which nothing fails: the source is read to its end, and every write on the way
  succeeds.  Such a run leaves the file of every launcher that it has read.
Trusted boundary: none
Main exports:
  Generator.Unfailed, Generator.Manages, Generator.ReadsThrough,
  Generator.completes_unfailed_iff, Generator.ReadsThrough.report, Generator.runFile_eq_ok_iff,
  Generator.ReadsThrough.holds
-/
import ChainLaunchers.Proofs.Run.Deposits
import ChainLaunchers.Proofs.Run.OwnInput
import ChainLaunchers.Proofs.Run.Prediction

namespace ChainLaunchers

namespace Generator

variable {generator : Generator}

/-! ### Lines without a failure -/

/-- No line has failed, whether that has ended the run or not. -/
def Unfailed (fates : List Fate) : Prop :=
  ∀ fate ∈ fates, fate.fatal? = none ∧ fate.refused? = none

theorem unfailed_nil : Unfailed [] := List.forall_mem_nil _

theorem unfailed_cons_iff {fate : Fate} {rest : List Fate} :
    Unfailed (fate :: rest) ↔ (fate.fatal? = none ∧ fate.refused? = none) ∧ Unfailed rest :=
  List.forall_mem_cons

theorem unfailed_append_iff {first second : List Fate} :
    Unfailed (first ++ second) ↔ Unfailed first ∧ Unfailed second :=
  List.forall_mem_append

theorem Unfailed.going {fates : List Fate} (unfailed : Unfailed fates) :
    stops fates = false := by
  rw [stops, List.findSome?_eq_none_iff.2]
  · rfl
  · intro fate mem
    exact (unfailed fate mem).1

/-- Nothing has failed in a run that goes on and records nothing. -/
theorem unfailed_iff {fates : List Fate} :
    Unfailed fates ↔ stops fates = false ∧ fates.filterMap Fate.refused? = [] := by
  constructor
  · intro unfailed
    refine ⟨unfailed.going, List.filterMap_eq_nil_iff.2 ?_⟩
    intro fate mem
    exact (unfailed fate mem).2
  · rintro ⟨going, unrefused⟩ fate mem
    have unended : fates.findSome? Fate.fatal? = none := by simpa [stops] using going
    exact ⟨List.findSome?_eq_none_iff.1 unended fate mem,
      List.filterMap_eq_nil_iff.1 unrefused fate mem⟩

/-- The lines can be treated without a failure, and lead from the first tree to the last.  A dry
run leaves the tree as it is. -/
def Manages (generator : Generator) (first : Tree) (lines : List Bytes) (last : Tree) : Prop :=
  if generator.dryRun then last = first else generator.WritesAll first lines last

theorem manages_dry (dry : generator.dryRun = true) {first last : Tree} {lines : List Bytes} :
    generator.Manages first lines last ↔ last = first := by
  rw [Manages, if_pos dry]

theorem manages_real (real : generator.dryRun = false) {first last : Tree} {lines : List Bytes} :
    generator.Manages first lines last ↔ generator.WritesAll first lines last := by
  rw [Manages, if_neg (by simp [real])]

theorem treatAll_of_dryRun (dry : generator.dryRun = true) (tree : Tree) (lines : List Bytes) :
    generator.treatAll tree lines = (lines.map generator.plan, tree) := by
  have same : generator.planning = generator := by
    rw [planning, ← dry]
  have planned := treatAll_planning generator tree lines
  rwa [same] at planned

theorem unfailed_plan (generator : Generator) (lines : List Bytes) :
    Unfailed (lines.map generator.plan) :=
  unfailed_iff.2 ⟨stops_plan generator lines, refusals_plan generator lines⟩

theorem unfailed_treatAll_of_writesAll (real : generator.dryRun = false) {first last : Tree}
    {lines : List Bytes} (writes : generator.WritesAll first lines last) :
    Unfailed (generator.treatAll first lines).1 ∧
      (generator.treatAll first lines).1.length = lines.length := by
  induction writes with
  | done tree => exact ⟨unfailed_nil, rfl⟩
  | skip unnamed others ih =>
      rw [treatAll_cons, treat_skipped unnamed]
      exact ⟨unfailed_cons_iff.2 ⟨⟨rfl, rfl⟩, ih.1⟩, congrArg Nat.succ ih.2⟩
  | write found written others ih =>
      rw [treatAll_cons, treat_written real found written]
      exact ⟨unfailed_cons_iff.2 ⟨⟨rfl, rfl⟩, ih.1⟩, congrArg Nat.succ ih.2⟩

/-- Lines that can be treated without a failure are treated so. -/
theorem Manages.treatAll {first last : Tree} {lines : List Bytes}
    (manages : generator.Manages first lines last) :
    Unfailed (generator.treatAll first lines).1 ∧
      (generator.treatAll first lines).1.length = lines.length ∧
      (generator.treatAll first lines).2 = last := by
  cases flag : generator.dryRun with
  | true =>
      obtain rfl := (manages_dry flag).1 manages
      rw [treatAll_of_dryRun flag]
      exact ⟨unfailed_plan generator lines, List.length_map _, rfl⟩
  | false =>
      have writes := (manages_real flag).1 manages
      obtain ⟨unfailed, length⟩ := unfailed_treatAll_of_writesAll flag writes
      exact ⟨unfailed, length, (treatAll_of_writesAll flag writes).2⟩

theorem writesAll_of_unfailed (real : generator.dryRun = false) {tree : Tree}
    {lines : List Bytes} (unfailed : Unfailed (generator.treatAll tree lines).1) :
    generator.WritesAll tree lines (generator.treatAll tree lines).2 := by
  induction lines generalizing tree with
  | nil => exact WritesAll.done tree
  | cons line rest ih =>
      have step := treated_treat generator tree line
      rw [treatAll_cons] at unfailed ⊢
      generalize generator.treat tree line = treated at step unfailed ⊢
      cases step with
      | skipped unnamed => exact WritesAll.skip unnamed (ih (unfailed_cons_iff.1 unfailed).2)
      | planned found dry =>
          rw [real] at dry
          cases dry
      | written found _ written =>
          exact WritesAll.write found written (ih (unfailed_cons_iff.1 unfailed).2)
      | @failed launcher next cause found _ failed =>
          -- Both ways of failing are failures.
          cases flag : generator.keepGoing with
          | true =>
              simp only [flag, if_true] at unfailed
              cases (unfailed_cons_iff.1 unfailed).1.2
          | false =>
              simp only [flag] at unfailed
              cases (unfailed_cons_iff.1 unfailed).1.1

theorem manages_of_unfailed {tree : Tree} {lines : List Bytes}
    (unfailed : Unfailed (generator.treatAll tree lines).1) :
    generator.Manages tree lines (generator.treatAll tree lines).2 := by
  cases flag : generator.dryRun with
  | true =>
      rw [manages_dry flag, treatAll_of_dryRun flag]
  | false =>
      rw [manages_real flag]
      exact writesAll_of_unfailed flag unfailed

/-! ### Reading to the end -/

/-- From an offset on, with an unfinished line before it, the source is read to its end, and
these lines are treated without a failure.  Each block shows the tree that the lines before it
have led to. -/
inductive ReadsThrough (generator : Generator) (source : Source) (size : Nat) :
    (tree : Tree) → (offset : Nat) → (pending : Bytes) → (lines : List Bytes) → (last : Tree) →
      Prop where
  | ended {tree : Tree} {offset : Nat} (read : source.read tree offset size = .ok []) :
      ReadsThrough generator source size tree offset [] [] tree
  | unfinished {tree next last : Tree} {offset : Nat} {pending : Bytes} {lines : List Bytes}
      (read : source.read tree offset size = .ok []) (nonempty : pending ≠ [])
      (manages : generator.Manages tree [pending] next)
      (others : ReadsThrough generator source size next offset [] lines last) :
      ReadsThrough generator source size tree offset pending (pending :: lines) last
  | block {tree next last : Tree} {offset : Nat} {pending bytes rest : Bytes}
      {finished lines : List Bytes}
      (read : source.read tree offset size = .ok bytes) (nonempty : bytes ≠ [])
      (cut : Line.cut (pending ++ bytes) = (finished, rest))
      (manages : generator.Manages tree finished next)
      (others : ReadsThrough generator source size next (offset + bytes.length) rest lines last) :
      ReadsThrough generator source size tree offset pending (finished ++ lines) last

variable {source : Source} {size : Nat}

/-- A source that is read through is run through. -/
theorem ReadsThrough.readLines {tree last : Tree} {offset : Nat} {pending : Bytes}
    {lines : List Bytes}
    (reads : generator.ReadsThrough source size tree offset pending lines last) :
    Unfailed (generator.readLines source size tree offset pending).fates ∧
      (generator.readLines source size tree offset pending).fates.length = lines.length ∧
      (generator.readLines source size tree offset pending).tree = last ∧
      (generator.readLines source size tree offset pending).unread = none := by
  induction reads with
  | ended read =>
      rw [readLines_eq, read]
      exact ⟨unfailed_nil, rfl, rfl, rfl⟩
  | @unfinished tree next last offset pending lines read nonempty manages others ih =>
      obtain ⟨unfailed, length, rfl⟩ := manages.treatAll
      obtain ⟨unfailed', length', last, unread⟩ := ih
      rw [readLines_eq, read]
      simp only [if_neg nonempty, unfailed.going, Bool.false_eq_true, if_false]
      refine ⟨unfailed_append_iff.2 ⟨unfailed, unfailed'⟩, ?_, last, unread⟩
      rw [Run.after, List.length_append, length, length', List.length_singleton, Nat.add_comm]
      rfl
  | @block tree next last offset pending bytes rest finished lines read nonempty cut manages
      others ih =>
      obtain ⟨unfailed, length, rfl⟩ := manages.treatAll
      obtain ⟨unfailed', length', last, unread⟩ := ih
      obtain ⟨byte, more, rfl⟩ := List.exists_cons_of_ne_nil nonempty
      rw [readLines_eq, read]
      simp only [cut, unfailed.going, Bool.false_eq_true, if_false]
      refine ⟨unfailed_append_iff.2 ⟨unfailed, unfailed'⟩, ?_, last, unread⟩
      rw [Run.after, List.length_append, length, length', List.length_append]

/-- A run without a failure has read its source through. -/
theorem exists_readsThrough {tree : Tree} {offset : Nat} {pending : Bytes}
    (unfailed : Unfailed (generator.readLines source size tree offset pending).fates)
    (complete : (generator.readLines source size tree offset pending).unread = none) :
    ∃ lines, generator.ReadsThrough source size tree offset pending lines
      (generator.readLines source size tree offset pending).tree := by
  fun_induction readLines generator source size tree offset pending with
  | case1 tree offset pending cause read => cases complete
  | case2 tree offset read => exact ⟨[], ReadsThrough.ended read⟩
  | case3 tree offset pending read nonempty fates after treated fatal =>
      rw [unfailed.going] at fatal
      cases fatal
  | case4 tree offset pending read nonempty fates after treated going ih =>
      obtain ⟨own, others⟩ := unfailed_append_iff.1 unfailed
      obtain ⟨lines, reads⟩ := ih others complete
      have manages : generator.Manages tree [pending] after := by
        have manages := @manages_of_unfailed generator tree [pending] (by rwa [treated])
        rwa [treated] at manages
      exact ⟨pending :: lines, ReadsThrough.unfinished read nonempty manages reads⟩
  | case5 tree offset pending byte bytes read finished rest cut fates after treated fatal =>
      rw [unfailed.going] at fatal
      cases fatal
  | case6 tree offset pending byte bytes read finished rest cut fates after treated going ih =>
      obtain ⟨own, others⟩ := unfailed_append_iff.1 unfailed
      obtain ⟨lines, reads⟩ := ih others complete
      have manages : generator.Manages tree finished after := by
        have manages := @manages_of_unfailed generator tree finished (by rwa [treated])
        rwa [treated] at manages
      exact ⟨finished ++ lines,
        ReadsThrough.block read (List.cons_ne_nil byte bytes) cut manages reads⟩

/-! ### Reports without a failure -/

theorem hasFailures_ofFates {fates : List Fate} :
    (Report.ofFates generator fates).hasFailures = false ↔ fates.filterMap Fate.refused? = [] := by
  simp [Report.hasFailures, Report.ofFates]

/-- A source that is read through comes to a report of all its lines, without a failure. -/
theorem ReadsThrough.report {tree last : Tree} {lines : List Bytes}
    (reads : generator.ReadsThrough source size tree 0 [] lines last) (label : Path) :
    ∃ report, (generator.runOver source size label tree).result = .ok report ∧
      report.hasFailures = false ∧ report.linesRead = lines.length ∧
      (generator.runOver source size label tree).tree = last := by
  obtain ⟨unfailed, length, last, unread⟩ := reads.readLines
  obtain ⟨going, unrefused⟩ := unfailed_iff.1 unfailed
  have result := @result_of_going generator (generator.run source size tree) going label
  rw [run, unread] at result
  exact ⟨_, result, hasFailures_ofFates.2 unrefused, length, last⟩

/-- A run comes to a report without a failure exactly if its source is read through. -/
theorem completes_unfailed_iff {tree : Tree} (label : Path) :
    (∃ report, (generator.runOver source size label tree).result = .ok report ∧
        report.hasFailures = false) ↔
      ∃ lines last, generator.ReadsThrough source size tree 0 [] lines last := by
  constructor
  · rintro ⟨report, completed, fine⟩
    obtain ⟨going, complete, rfl⟩ := going_of_result label completed
    have unfailed := unfailed_iff.2 ⟨going, hasFailures_ofFates.1 fine⟩
    obtain ⟨lines, reads⟩ := exists_readsThrough unfailed complete
    exact ⟨lines, _, reads⟩
  · rintro ⟨lines, last, reads⟩
    obtain ⟨report, completed, fine, -⟩ := reads.report label
    exact ⟨report, completed, fine⟩

/-- A run over a file comes to a report if the file opens and the run over it comes to one. -/
theorem runFile_eq_ok_iff {path : Path} {tree : Tree} {report : Report} :
    (generator.runFile path tree).result = .ok report ↔
      ∃ source, tree.openFile path = .ok source ∧
        (generator.runOver source blockSize path tree).result = .ok report := by
  unfold runFile
  cases tree.openFile path with
  | error cause => exact iff_of_false nofun nofun
  | ok source =>
      constructor
      · intro completed
        exact ⟨source, rfl, completed⟩
      · rintro ⟨_, same, completed⟩
        obtain rfl := Except.ok.inj same
        exact completed

theorem tree_runFile {path : Path} {tree : Tree} {source : Source}
    (opened : tree.openFile path = .ok source) :
    (generator.runFile path tree).tree = (generator.runOver source blockSize path tree).tree := by
  simp only [runFile, opened]

/-! ### The files of such a run -/

theorem WritesAll.append {first middle last : Tree} {before after : List Bytes}
    (writes : generator.WritesAll first before middle)
    (writes' : generator.WritesAll middle after last) :
    generator.WritesAll first (before ++ after) last := by
  induction writes with
  | done tree => exact writes'
  | skip unnamed others ih => exact WritesAll.skip unnamed (ih writes')
  | write found written others ih => exact WritesAll.write found written (ih writes')

theorem ReadsThrough.writesAll (real : generator.dryRun = false) {tree last : Tree}
    {offset : Nat} {pending : Bytes} {lines : List Bytes}
    (reads : generator.ReadsThrough source size tree offset pending lines last) :
    generator.WritesAll tree lines last := by
  induction reads with
  | ended read => exact WritesAll.done _
  | unfinished read nonempty manages others ih => exact ((manages_real real).1 manages).append ih
  | block read nonempty cut manages others ih => exact ((manages_real real).1 manages).append ih

/-- Lines that are all written leave the deposits of all their launchers, each of which lands. -/
theorem WritesAll.deposits (accepted : generator.IsAccepted) {first last : Tree}
    {lines : List Bytes} (writes : generator.WritesAll first lines last) :
    last = generator.depositAll first (generator.launchers lines) ∧
      ∀ launcher ∈ generator.launchers lines, generator.Lands first launcher.fileName := by
  induction writes with
  | done tree => exact ⟨rfl, List.forall_mem_nil _⟩
  | skip unnamed others ih =>
      rw [launchers_cons_none unnamed]
      exact ih
  | @write tree next last line rest launcher found written others ih =>
      obtain ⟨sameTree, sameFailure⟩ := Tree.writeFile_join (accepted.isEntryName found) tree
        generator.outputDirectory launcher.content
      rw [← pathOf, written] at sameTree sameFailure
      obtain rfl : next = generator.depositOne tree launcher := sameTree
      rw [launchers_cons_some found, depositAll_cons]
      refine ⟨ih.1, List.forall_mem_cons.2 ⟨sameFailure.1 rfl, ?_⟩⟩
      intro other mem
      exact (lands_depositOne tree launcher other.fileName).1 (ih.2 other mem)

/-- After a run without a failure, every launcher that was read has its file, with the content of
the last launcher of this file name. -/
theorem ReadsThrough.holds (accepted : generator.IsAccepted) (real : generator.dryRun = false)
    {tree last : Tree} {offset : Nat} {pending : Bytes} {lines : List Bytes}
    (reads : generator.ReadsThrough source size tree offset pending lines last)
    {launcher : Launcher} (mem : launcher ∈ generator.launchers lines) :
    ∃ final,
      ((generator.launchers lines).filter fun other =>
          other.fileName = launcher.fileName).getLast? = some final ∧
        last.readFile (generator.pathOf launcher) = .ok final.content := by
  obtain ⟨rfl, lands⟩ := (reads.writesAll real).deposits accepted
  obtain ⟨place, target⟩ := lands_iff.1 (lands launcher mem)
  rw [← aimedAt_of_target target]
  exact readFile_depositAll mem (isEntryName_of_mem_launchers accepted mem) target

end Generator

end ChainLaunchers
