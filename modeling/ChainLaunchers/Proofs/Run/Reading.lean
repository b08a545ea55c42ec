/-
Module: ChainLaunchers.Proofs.Run.Reading
Purpose: A run over data treats the lines of the data one after another, whatever the size of
  the blocks in which the data is read.
Trusted boundary: none
Main exports:
  Generator.Treated, Generator.treated_treat, Generator.treatAll_append,
  Generator.readLines_preserves, Line.delivered, Generator.runOfLines,
  Generator.run_memory, Generator.result_of_going
-/
import ChainLaunchers.Proofs.Run.Ledger
import ChainLaunchers.Proofs.Line.Pieces

namespace ChainLaunchers

namespace Generator

/-! ### Launchers of lines -/

/-- The launchers of some lines, in their order. -/
def launchers (generator : Generator) (lines : List Bytes) : List Launcher :=
  lines.filterMap generator.launcher?

theorem launchers_cons_none {generator : Generator} {line : Bytes}
    (unnamed : generator.launcher? line = none) (rest : List Bytes) :
    generator.launchers (line :: rest) = generator.launchers rest :=
  List.filterMap_cons_none unnamed

theorem launchers_cons_some {generator : Generator} {line : Bytes} {launcher : Launcher}
    (found : generator.launcher? line = some launcher) (rest : List Bytes) :
    generator.launchers (line :: rest) = launcher :: generator.launchers rest :=
  List.filterMap_cons_some found

/-! ### Treating one line -/

section

variable {generator : Generator} {tree : Tree} {line : Bytes}

theorem treat_skipped (unnamed : generator.launcher? line = none) :
    generator.treat tree line = (.skipped, tree) := by
  simp only [treat, unnamed]

theorem treat_planned (dry : generator.dryRun = true) {launcher : Launcher}
    (found : generator.launcher? line = some launcher) :
    generator.treat tree line = (.planned launcher, tree) := by
  simp only [treat, found, dry, if_true]

theorem treat_written (real : generator.dryRun = false) {launcher : Launcher}
    (found : generator.launcher? line = some launcher) {next : Tree}
    (written : tree.writeFile (generator.pathOf launcher) launcher.content = ⟨next, none⟩) :
    generator.treat tree line = (.written launcher, next) := by
  simp only [treat, found, real, Bool.false_eq_true, if_false, written]

theorem treat_failed (real : generator.dryRun = false) {launcher : Launcher}
    (found : generator.launcher? line = some launcher) {next : Tree} {cause : IoError}
    (failed : tree.writeFile (generator.pathOf launcher) launcher.content = ⟨next, some cause⟩) :
    generator.treat tree line =
      (if generator.keepGoing then .refused launcher cause else .fatal launcher cause, next) := by
  simp only [treat, found, real, Bool.false_eq_true, if_false, failed]

/-- Everything that can become of a line. -/
inductive Treated (generator : Generator) (tree : Tree) (line : Bytes) : Fate × Tree → Prop where
  | skipped (unnamed : generator.launcher? line = none) :
      Treated generator tree line (.skipped, tree)
  | planned {launcher : Launcher} (found : generator.launcher? line = some launcher)
      (dry : generator.dryRun = true) : Treated generator tree line (.planned launcher, tree)
  | written {launcher : Launcher} {next : Tree}
      (found : generator.launcher? line = some launcher) (real : generator.dryRun = false)
      (written : tree.writeFile (generator.pathOf launcher) launcher.content = ⟨next, none⟩) :
      Treated generator tree line (.written launcher, next)
  | failed {launcher : Launcher} {next : Tree} {cause : IoError}
      (found : generator.launcher? line = some launcher) (real : generator.dryRun = false)
      (failed : tree.writeFile (generator.pathOf launcher) launcher.content = ⟨next, some cause⟩) :
      Treated generator tree line
        (if generator.keepGoing then .refused launcher cause else .fatal launcher cause, next)

theorem treated_treat (generator : Generator) (tree : Tree) (line : Bytes) :
    Treated generator tree line (generator.treat tree line) := by
  cases found : generator.launcher? line with
  | none =>
      rw [treat_skipped found]
      exact Treated.skipped found
  | some launcher =>
      cases flag : generator.dryRun with
      | true =>
          rw [treat_planned flag found]
          exact Treated.planned found flag
      | false =>
          cases attempt : tree.writeFile (generator.pathOf launcher) launcher.content with
          | mk next failure =>
              cases failure with
              | none =>
                  rw [treat_written flag found attempt]
                  exact Treated.written found flag attempt
              | some cause =>
                  rw [treat_failed flag found attempt]
                  exact Treated.failed found flag attempt

end

/-! ### Treating lines -/

theorem stops_cons (fate : Fate) (rest : List Fate) :
    stops (fate :: rest) = (fate.fatal?.isSome || stops rest) := by
  cases fate <;> rfl

theorem stops_append (first second : List Fate) :
    stops (first ++ second) = (stops first || stops second) := by
  induction first with
  | nil => rfl
  | cons fate rest ih => rw [List.cons_append, stops_cons, stops_cons, ih, Bool.or_assoc]

/-- The first line decides whether the others are treated. -/
theorem treatAll_cons (generator : Generator) (tree : Tree) (line : Bytes) (rest : List Bytes) :
    generator.treatAll tree (line :: rest) =
      if (generator.treat tree line).1.fatal?.isSome then
        ([(generator.treat tree line).1], (generator.treat tree line).2)
      else
        ((generator.treat tree line).1 :: (generator.treatAll (generator.treat tree line).2 rest).1,
          (generator.treatAll (generator.treat tree line).2 rest).2) := by
  rw [treatAll]
  cases generator.treat tree line with
  | mk fate after => cases fate <;> rfl

/-- Lines after others are treated where those have left off, unless one of those was fatal. -/
theorem treatAll_append (generator : Generator) (tree : Tree) (first second : List Bytes) :
    generator.treatAll tree (first ++ second) =
      if stops (generator.treatAll tree first).1 then generator.treatAll tree first
      else
        ((generator.treatAll tree first).1 ++
            (generator.treatAll (generator.treatAll tree first).2 second).1,
          (generator.treatAll (generator.treatAll tree first).2 second).2) := by
  induction first generalizing tree with
  | nil => rfl
  | cons line rest ih =>
      rw [List.cons_append, treatAll_cons, treatAll_cons]
      by_cases fatal : (generator.treat tree line).1.fatal?.isSome = true
      · simp only [fatal, if_true, stops_cons, Bool.true_or]
      · simp only [fatal, Bool.false_eq_true, if_false, ih, stops_cons, Bool.false_or]
        split <;> rfl

/-- What each of some lines preserves, they all preserve. -/
theorem treatAll_preserves {generator : Generator} {holds : Tree → Prop} {lines : List Bytes}
    (step : ∀ tree, ∀ line ∈ lines, holds tree → holds (generator.treat tree line).2)
    {tree : Tree} (start : holds tree) : holds (generator.treatAll tree lines).2 := by
  induction lines generalizing tree with
  | nil => exact start
  | cons line rest ih =>
      have here := step tree line List.mem_cons_self start
      rw [treatAll_cons]
      split
      · exact here
      · apply ih _ here
        intro tree other mem
        exact step tree other (List.mem_cons_of_mem line mem)

/-- Every fate is that of one of the lines, treated in a tree that has what lines preserve. -/
theorem exists_treat_of_mem {generator : Generator} {holds : Tree → Prop}
    (step : ∀ tree line, holds tree → holds (generator.treat tree line).2) {tree : Tree}
    (start : holds tree) {lines : List Bytes} {fate : Fate}
    (mem : fate ∈ (generator.treatAll tree lines).1) :
    ∃ before, holds before ∧ ∃ line ∈ lines, (generator.treat before line).1 = fate := by
  induction lines generalizing tree with
  | nil => cases mem
  | cons line rest ih =>
      rw [treatAll_cons] at mem
      split at mem
      · exact ⟨tree, start, line, List.mem_cons_self, (List.mem_singleton.1 mem).symm⟩
      · rcases List.mem_cons.1 mem with here | later
        · exact ⟨tree, start, line, List.mem_cons_self, here.symm⟩
        · obtain ⟨before, kept, other, otherMem, same⟩ := ih (step tree line start) later
          exact ⟨before, kept, other, List.mem_cons_of_mem line otherMem, same⟩

theorem exists_treat_of_mem_treatAll {generator : Generator} {tree : Tree} {lines : List Bytes}
    {fate : Fate} (mem : fate ∈ (generator.treatAll tree lines).1) :
    ∃ before, ∃ line ∈ lines, (generator.treat before line).1 = fate := by
  have anything : ∀ tree line, (fun _ : Tree => True) tree →
      (fun _ : Tree => True) (generator.treat tree line).2 := fun _ _ _ => trivial
  obtain ⟨before, -, treated⟩ := exists_treat_of_mem anything trivial mem
  exact ⟨before, treated⟩

/-- What a treated line preserves holds at the end of a run, whatever the source. -/
theorem readLines_preserves {generator : Generator} {holds : Tree → Prop}
    (step : ∀ tree line, holds tree → holds (generator.treat tree line).2) {source : Source}
    {size : Nat} {tree : Tree} (start : holds tree) (offset : Nat) (pending : Bytes) :
    holds (generator.readLines source size tree offset pending).tree := by
  have all : ∀ (tree : Tree) (lines : List Bytes), holds tree →
      holds (generator.treatAll tree lines).2 := by
    intro tree lines start
    apply treatAll_preserves _ start
    intro tree line _
    exact step tree line
  fun_induction readLines generator source size tree offset pending with
  | case1 => exact start
  | case2 => exact start
  | case3 tree offset pending _ _ fates after treated =>
      have last := all tree [pending] start
      rwa [treated] at last
  | case4 tree offset pending _ _ fates after treated _ ih =>
      have last := all tree [pending] start
      rw [treated] at last
      exact ih last
  | case5 tree offset pending byte bytes _ lines unfinished _ fates after treated =>
      have last := all tree lines start
      rwa [treated] at last
  | case6 tree offset pending byte bytes _ lines unfinished _ fates after treated _ ih =>
      have last := all tree lines start
      rw [treated] at last
      exact ih last

end Generator

/-! ### Lines that a source delivers -/

/-- The lines of some data that are read before the source ends, or fails where the data ends:
then the unfinished line is lost. -/
def Line.delivered (data : Bytes) (failure : Option IoError) : List Bytes :=
  match failure with
  | none => Line.ofData data
  | some _ => (Line.cut data).1

theorem Line.delivered_append (first second : Bytes) (failure : Option IoError) :
    Line.delivered (first ++ second) failure =
      (Line.cut first).1 ++ Line.delivered ((Line.cut first).2 ++ second) failure := by
  cases failure with
  | none => exact Line.ofData_append first second
  | some cause =>
      simp only [Line.delivered]
      rw [Line.cut_append]

/-- A source that fails delivers no other lines than one that does not. -/
theorem Line.mem_ofData_of_mem_delivered {data line : Bytes} {failure : Option IoError}
    (mem : line ∈ Line.delivered data failure) : line ∈ Line.ofData data := by
  cases failure with
  | none => exact mem
  | some cause =>
      have all := Line.ofData_append data []
      rw [List.append_nil] at all
      rw [all]
      exact List.mem_append_left _ mem

namespace Source

/-- A block is followed by what is left of the data. -/
theorem block_append_drop (data : Bytes) (offset size : Nat) :
    block data offset size ++ data.drop (offset + (block data offset size).length) =
      data.drop offset := by
  rw [← List.drop_drop, block, List.length_take]
  by_cases short : size ≤ (data.drop offset).length
  · rw [Nat.min_eq_left short, List.take_append_drop]
  · have long : (data.drop offset).length ≤ size := Nat.le_of_not_le short
    rw [Nat.min_eq_right long, List.take_of_length_le long, List.drop_length, List.append_nil]

theorem block_eq_nil {data : Bytes} {offset size : Nat} (positive : 0 < size)
    (empty : block data offset size = []) : data.drop offset = [] := by
  rcases List.take_eq_nil_iff.1 empty with zero | nothing
  · exact absurd zero (Nat.ne_of_gt positive)
  · exact nothing

/-- Data in memory fails only at its end. -/
theorem read_memory_error {data : Bytes} {failure : Option IoError} {tree : Tree}
    {offset size : Nat} {cause : IoError}
    (read : (Source.memory data failure).read tree offset size = .error cause) :
    failure = some cause ∧ data.drop offset = [] := by
  cases failure with
  | none => simp [Source.read] at read
  | some other =>
      simp only [Source.read] at read
      split at read
      · cases read
      · rename_i past
        exact ⟨by simpa using read, List.drop_eq_nil_iff.2 (Nat.le_of_not_lt past)⟩

/-- What is read of data in memory is a block, and an empty one only at the end of a source
that does not fail. -/
theorem read_memory_ok {data bytes : Bytes} {failure : Option IoError} {tree : Tree}
    {offset size : Nat} (positive : 0 < size)
    (read : (Source.memory data failure).read tree offset size = .ok bytes) :
    bytes = block data offset size ∧ (bytes = [] → failure = none ∧ data.drop offset = []) := by
  cases failure with
  | none =>
      obtain rfl : block data offset size = bytes := by simpa [Source.read] using read
      exact ⟨rfl, fun empty => ⟨rfl, block_eq_nil positive empty⟩⟩
  | some other =>
      simp only [Source.read] at read
      split at read
      · rename_i inside
        obtain rfl : block data offset size = bytes := by simpa using read
        refine ⟨rfl, ?_⟩
        intro empty
        have past := List.drop_eq_nil_iff.1 (block_eq_nil positive empty)
        exact absurd inside (Nat.not_lt.2 past)
      · cases read

end Source

namespace Generator

/-! ### Runs over data -/

/-- The run that treats the given lines, after which the source ends or fails. -/
def runOfLines (generator : Generator) (tree : Tree) (lines : List Bytes)
    (failure : Option IoError) : Run :=
  let treated := generator.treatAll tree lines
  ⟨treated.1, treated.2, if stops treated.1 then none else failure⟩

theorem runOfLines_nil (generator : Generator) (tree : Tree) (failure : Option IoError) :
    generator.runOfLines tree [] failure = ⟨[], tree, failure⟩ := rfl

theorem runOfLines_append (generator : Generator) (tree : Tree) (first second : List Bytes)
    (failure : Option IoError) :
    generator.runOfLines tree (first ++ second) failure =
      if stops (generator.treatAll tree first).1 then
        ⟨(generator.treatAll tree first).1, (generator.treatAll tree first).2, none⟩
      else
        (generator.runOfLines (generator.treatAll tree first).2 second failure).after
          (generator.treatAll tree first).1 := by
  rw [runOfLines, treatAll_append]
  cases going : stops (generator.treatAll tree first).1 with
  | true => simp only [if_true, going]
  | false =>
      simp only [Bool.false_eq_true, if_false, stops_append, going, Bool.false_or]
      rfl

/-- Reading data from an offset on, with an unfinished line before it, treats the lines that
are delivered of both together. -/
theorem readLines_memory (generator : Generator) {size : Nat} (positive : 0 < size)
    (data : Bytes) (failure : Option IoError) (tree : Tree) (offset : Nat) {pending : Bytes}
    (unbroken : Line.feed ∉ pending) :
    generator.readLines (.memory data failure) size tree offset pending =
      generator.runOfLines tree (Line.delivered (pending ++ data.drop offset) failure) failure := by
  generalize source : Source.memory data failure = memory
  -- The unfinished line never holds a line feed, so at the end it is a line by itself.
  fun_induction readLines generator memory size tree offset pending with
  | case1 tree offset pending cause read =>
      subst source
      obtain ⟨rfl, atEnd⟩ := Source.read_memory_error read
      rw [atEnd, List.append_nil, Line.delivered, Line.cut_of_not_mem unbroken, runOfLines_nil]
  | case2 tree offset read =>
      subst source
      obtain ⟨rfl, atEnd⟩ := (Source.read_memory_ok positive read).2 rfl
      rw [atEnd, List.append_nil, Line.delivered, Line.ofData_of_not_mem unbroken, if_pos rfl,
        runOfLines_nil]
  | case3 tree offset pending read nonempty fates after treated fatal =>
      subst source
      obtain ⟨rfl, atEnd⟩ := (Source.read_memory_ok positive read).2 rfl
      rw [atEnd, List.append_nil, Line.delivered, Line.ofData_of_not_mem unbroken, if_neg nonempty,
        runOfLines, treated]
      simp only [ite_self]
  | case4 tree offset pending read nonempty fates after treated going ih =>
      subst source
      obtain ⟨rfl, atEnd⟩ := (Source.read_memory_ok positive read).2 rfl
      rw [ih List.not_mem_nil, atEnd, List.append_nil, List.append_nil, Line.delivered,
        Line.delivered, Line.ofData_of_not_mem unbroken, if_neg nonempty,
        ← List.append_nil [pending], runOfLines_append, treated]
      simp only [going]
      rfl
  | case5 tree offset pending byte bytes read lines unfinished cut fates after treated fatal =>
      subst source
      obtain ⟨same, -⟩ := Source.read_memory_ok positive read
      rw [← Source.block_append_drop data offset size, ← same, ← List.append_assoc,
        Line.delivered_append, cut, runOfLines_append, treated]
      simp only [fatal, if_true]
  | case6 tree offset pending byte bytes read lines unfinished cut fates after treated going ih =>
      subst source
      obtain ⟨same, -⟩ := Source.read_memory_ok positive read
      have rest : Line.feed ∉ unfinished := by
        have unbroken := Line.feed_not_mem_unfinished (pending ++ byte :: bytes)
        rwa [cut] at unbroken
      rw [ih rest, ← Source.block_append_drop data offset size, ← same, ← List.append_assoc,
        Line.delivered_append (pending ++ byte :: bytes), cut, runOfLines_append, treated]
      simp only [going]
      rfl

/-- A run over data treats the lines that are delivered of it, whatever the size of the
blocks. -/
theorem run_memory (generator : Generator) {size : Nat} (positive : 0 < size) (data : Bytes)
    (failure : Option IoError) (tree : Tree) :
    generator.run (.memory data failure) size tree =
      generator.runOfLines tree (Line.delivered data failure) failure := by
  rw [run, readLines_memory generator positive data failure tree 0 List.not_mem_nil]
  rfl

/-- A source that does not fail is run through to its last line, or to a fatal one. -/
theorem run_memory_none (generator : Generator) {size : Nat} (positive : 0 < size) (data : Bytes)
    (tree : Tree) :
    generator.run (.memory data none) size tree =
      ⟨(generator.treatAll tree (Line.ofData data)).1,
        (generator.treatAll tree (Line.ofData data)).2, none⟩ := by
  rw [run_memory generator positive, runOfLines, Line.delivered]
  simp only [ite_self]

/-- A source that fails loses its unfinished line, unless a line was fatal. -/
theorem run_memory_some {generator : Generator} {size : Nat} (positive : 0 < size) {data : Bytes}
    {tree : Tree} (going : stops (generator.treatAll tree (Line.cut data).1).1 = false)
    (cause : IoError) :
    generator.run (.memory data (some cause)) size tree =
      ⟨(generator.treatAll tree (Line.cut data).1).1,
        (generator.treatAll tree (Line.cut data).1).2, some cause⟩ := by
  rw [run_memory generator positive, runOfLines, Line.delivered, going]
  rfl

/-! ### Results -/

/-- The failed paths of a report are those of the launchers that were refused. -/
theorem failed_ofFates (generator : Generator) (fates : List Fate) :
    (Report.ofFates generator fates).failed.map FailedWrite.path =
      ((fates.filterMap Fate.refused?).map Prod.fst).map generator.pathOf := by
  rw [Report.ofFates, List.map_map, List.map_map]
  rfl

/-- A run that no launcher has ended comes to a report, unless its source has failed. -/
theorem result_of_going {generator : Generator} {run : Run} (going : stops run.fates = false)
    (label : Path) :
    run.result generator label =
      match run.unread with
      | none => .ok (Report.ofFates generator run.fates)
      | some cause => .error (.inputRead label cause) := by
  have unended : run.fatal? = none := by simpa [stops, Run.fatal?] using going
  rw [Run.result, unended, Run.ledger_eq_ofFates]
  cases run.unread <;> rfl

end Generator

end ChainLaunchers
