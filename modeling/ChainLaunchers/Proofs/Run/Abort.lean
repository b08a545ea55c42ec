/-
Module: ChainLaunchers.Proofs.Run.Abort
Purpose: Runs that end early: at the first line whose write fails, or where the source fails.
  What such a run leaves is what the lines before it leave.
Trusted boundary: none
Main exports:
  Generator.WritesAll, Generator.FailsFirst, Generator.writesAll_or_failsFirst,
  Generator.LosesUnfinished, Generator.Aborts, Generator.aborts_at_first_failure
-/
import ChainLaunchers.Proofs.Run.Reading

namespace ChainLaunchers

namespace Generator

/-! ### Writing line by line -/

/-- All lines have been treated with success, and have led from the first tree to the last. -/
inductive WritesAll (generator : Generator) :
    (first : Tree) → (lines : List Bytes) → (last : Tree) → Prop where
  | done (tree : Tree) : WritesAll generator tree [] tree
  | skip {tree last : Tree} {line : Bytes} {rest : List Bytes}
      (unnamed : generator.launcher? line = none) (others : WritesAll generator tree rest last) :
      WritesAll generator tree (line :: rest) last
  | write {tree next last : Tree} {line : Bytes} {rest : List Bytes} {launcher : Launcher}
      (found : generator.launcher? line = some launcher)
      (written : tree.writeFile (generator.pathOf launcher) launcher.content = ⟨next, none⟩)
      (others : WritesAll generator next rest last) :
      WritesAll generator tree (line :: rest) last

/-- The lines before have been treated with success, and after them the write of this line
fails, for this cause and leaving this tree. -/
def FailsFirst (generator : Generator) (first : Tree) (before : List Bytes) (line : Bytes)
    (launcher : Launcher) (cause : IoError) (last : Tree) : Prop :=
  ∃ middle, generator.WritesAll first before middle ∧ generator.launcher? line = some launcher ∧
    middle.writeFile (generator.pathOf launcher) launcher.content = ⟨last, some cause⟩

/-- Either all lines can be treated with success, or there is a first one whose write fails. -/
theorem writesAll_or_failsFirst (generator : Generator) (tree : Tree) (lines : List Bytes) :
    (∃ last, generator.WritesAll tree lines last) ∨
      ∃ before line after launcher cause last, lines = before ++ line :: after ∧
        generator.FailsFirst tree before line launcher cause last := by
  induction lines generalizing tree with
  | nil => exact Or.inl ⟨tree, WritesAll.done tree⟩
  | cons line rest ih =>
      cases found : generator.launcher? line with
      | none =>
          rcases ih tree with ⟨last, others⟩ |
            ⟨before, failing, after, launcher, cause, last, rfl, middle, others, failed⟩
          · exact Or.inl ⟨last, WritesAll.skip found others⟩
          · exact Or.inr ⟨line :: before, failing, after, launcher, cause, last, rfl, middle,
              WritesAll.skip found others, failed⟩
      | some own =>
          cases attempt : tree.writeFile (generator.pathOf own) own.content with
          | mk next failure =>
              cases failure with
              | some cause =>
                  exact Or.inr ⟨[], line, rest, own, cause, next, rfl, tree, WritesAll.done tree,
                    found, attempt⟩
              | none =>
                  rcases ih next with ⟨last, others⟩ |
                    ⟨before, failing, after, launcher, cause, last, rfl, middle, others, failed⟩
                  · exact Or.inl ⟨last, WritesAll.write found attempt others⟩
                  · exact Or.inr ⟨line :: before, failing, after, launcher, cause, last, rfl,
                      middle, WritesAll.write found attempt others, failed⟩

/-! ### Treating such lines -/

variable {generator : Generator}

/-- Lines that are all written end no run, and leave the last tree. -/
theorem treatAll_of_writesAll (real : generator.dryRun = false) {first last : Tree}
    {lines : List Bytes} (writes : generator.WritesAll first lines last) :
    stops (generator.treatAll first lines).1 = false ∧
      (generator.treatAll first lines).2 = last := by
  induction writes with
  | done tree => exact ⟨rfl, rfl⟩
  | skip unnamed others ih =>
      rw [treatAll_cons, treat_skipped unnamed]
      exact ih
  | write found written others ih =>
      rw [treatAll_cons, treat_written real found written]
      exact ih

/-- A run over lines with a failing write ends with that write, whatever comes after it. -/
theorem runOfLines_of_failsFirst (real : generator.dryRun = false)
    (strict : generator.keepGoing = false) {first last : Tree} {before : List Bytes} {line : Bytes}
    {launcher : Launcher} {cause : IoError}
    (fails : generator.FailsFirst first before line launcher cause last) (after : List Bytes)
    (failure : Option IoError) :
    generator.runOfLines first (before ++ line :: after) failure =
      ⟨(generator.treatAll first before).1 ++ [.fatal launcher cause], last, none⟩ := by
  obtain ⟨middle, writes, found, failed⟩ := fails
  obtain ⟨going, rfl⟩ := treatAll_of_writesAll real writes
  rw [runOfLines_append, if_neg (by simp [going]), runOfLines, treatAll_cons,
    treat_failed real found failed, strict]
  rfl

/-- A run that ends with a fatal write fails with its path and its cause. -/
theorem result_of_fatal {fates : List Fate} (going : stops fates = false) (launcher : Launcher)
    (cause : IoError) (last : Tree) (unread : Option IoError) (label : Path) :
    (Run.mk (fates ++ [.fatal launcher cause]) last unread).result generator label =
      .error (.outputWrite (generator.pathOf launcher) cause) := by
  have earlier : fates.findSome? Fate.fatal? = none := by simpa [stops] using going
  rw [Run.result, Run.fatal?, List.findSome?_append, earlier]
  rfl

/-- Where failures are recorded, no line is fatal. -/
theorem fatal?_treat_of_keepGoing (going : generator.keepGoing = true) (tree : Tree)
    (line : Bytes) : (generator.treat tree line).1.fatal? = none := by
  have step := treated_treat generator tree line
  generalize generator.treat tree line = treated at step ⊢
  cases step with
  | skipped unnamed => rfl
  | planned found dry => rfl
  | written found real written => rfl
  | failed found real failed =>
      rw [if_pos going]
      rfl

theorem stops_treatAll_of_keepGoing (going : generator.keepGoing = true) (tree : Tree)
    (lines : List Bytes) : stops (generator.treatAll tree lines).1 = false := by
  induction lines generalizing tree with
  | nil => rfl
  | cons line rest ih =>
      have harmless := fatal?_treat_of_keepGoing going tree line
      rw [treatAll_cons, harmless, Option.isSome_none, if_neg Bool.false_ne_true, stops_cons,
        harmless, ih]
      rfl

/-! ### Sources that fail -/

/-- When the source fails where the data ends, its failure is the result, and the tree is the one
that a complete run over the finished lines leaves: the unfinished line has no effect. -/
def LosesUnfinished (generator : Generator) (data : Bytes) (cause : IoError) (size : Nat)
    (label : Path) (tree : Tree) : Prop :=
  (generator.runOver (.memory data (some cause)) size label tree).result =
      .error (.inputRead label cause) ∧
    ∃ report, (generator.runOver (.memory (Line.finishedPart data) none) size label tree).result =
        .ok report ∧
      (generator.runOver (.memory data (some cause)) size label tree).tree =
        (generator.runOver (.memory (Line.finishedPart data) none) size label tree).tree

theorem losesUnfinished_of_going {data : Bytes} {tree : Tree}
    (going : stops (generator.treatAll tree (Line.cut data).1).1 = false) (cause : IoError)
    {size : Nat} (positive : 0 < size) (label : Path) :
    generator.LosesUnfinished data cause size label tree := by
  rw [LosesUnfinished, runOver, run_memory_some positive going, runOver,
    run_memory_none generator positive, Line.ofData_finishedPart]
  exact ⟨result_of_going going label, _, result_of_going going label, rfl⟩

/-! ### Aborted runs -/

/-- How runs over data end that stop at the first failure. -/
structure Aborts (generator : Generator) (data : Bytes) (failure : Option IoError) (label : Path)
    (tree : Tree) : Prop where
  /-- The result names the line whose write is the first to fail, and the tree is what the lines
  before it and its own attempt leave. -/
  failed : ∀ size before line after launcher cause last, 0 < size →
    Line.delivered data failure = before ++ line :: after →
    generator.FailsFirst tree before line launcher cause last →
    (generator.runOver (.memory data failure) size label tree).result =
        .error (.outputWrite (generator.pathOf launcher) cause) ∧
      (generator.runOver (.memory data failure) size label tree).tree = last
  /-- Nothing that comes after that line matters. -/
  independent : ∀ size size' data' failure' before line after after' launcher cause last,
    0 < size → 0 < size' → Line.delivered data failure = before ++ line :: after →
    Line.delivered data' failure' = before ++ line :: after' →
    generator.FailsFirst tree before line launcher cause last →
    generator.runOver (.memory data failure) size label tree =
      generator.runOver (.memory data' failure') size' label tree
  /-- If no write fails, a failure of the source comes next. -/
  unread : ∀ size cause last, 0 < size → failure = some cause →
    generator.WritesAll tree (Line.delivered data failure) last →
    generator.LosesUnfinished data cause size label tree
  /-- If nothing fails, there is a report. -/
  complete : ∀ size last, 0 < size → failure = none →
    generator.WritesAll tree (Line.delivered data failure) last →
    ∃ report, (generator.runOver (.memory data failure) size label tree).result = .ok report ∧
      (generator.runOver (.memory data failure) size label tree).tree = last
  /-- One of these is the case. -/
  covered : (∃ last, generator.WritesAll tree (Line.delivered data failure) last) ∨
    ∃ before line after launcher cause last,
      Line.delivered data failure = before ++ line :: after ∧
        generator.FailsFirst tree before line launcher cause last

theorem aborts_of_strict (real : generator.dryRun = false) (strict : generator.keepGoing = false)
    (data : Bytes) (failure : Option IoError) (label : Path) (tree : Tree) :
    generator.Aborts data failure label tree := by
  constructor
  · intro size before line after launcher cause last positive lines fails
    have ended := runOfLines_of_failsFirst real strict fails after failure
    obtain ⟨middle, writes, -⟩ := fails
    obtain ⟨going, -⟩ := treatAll_of_writesAll real writes
    rw [runOver, run_memory generator positive, lines, ended]
    exact ⟨result_of_fatal going launcher cause last none label, rfl⟩
  · intro size size' data' failure' before line after after' launcher cause last positive positive'
      lines lines' fails
    rw [runOver, run_memory generator positive, lines,
      runOfLines_of_failsFirst real strict fails after failure, runOver,
      run_memory generator positive', lines',
      runOfLines_of_failsFirst real strict fails after' failure']
  · intro size cause last positive failing writes
    subst failing
    exact losesUnfinished_of_going (treatAll_of_writesAll real writes).1 cause positive label
  · intro size last positive ending writes
    subst ending
    obtain ⟨going, rfl⟩ := treatAll_of_writesAll real writes
    rw [runOver, run_memory_none generator positive]
    exact ⟨_, result_of_going going label, rfl⟩
  · exact writesAll_or_failsFirst generator tree (Line.delivered data failure)

/-- A run that stops at the first failure is the beginning of the full run, up to the failing
write or to the last finished line.  A source that fails has the last word also where failing
writes are recorded. -/
theorem aborts_at_first_failure (real : generator.dryRun = false) (data : Bytes)
    (failure : Option IoError) (label : Path) (tree : Tree) :
    (generator.keepGoing = false → generator.Aborts data failure label tree) ∧
      (generator.keepGoing = true → ∀ size cause, 0 < size →
        generator.LosesUnfinished data cause size label tree) := by
  constructor
  · intro strict
    exact aborts_of_strict real strict data failure label tree
  · intro going size cause positive
    exact losesUnfinished_of_going (stops_treatAll_of_keepGoing going tree _) cause positive label

/-- A working directory in which a directory has the name of a launcher. -/
def taken : Tree := Tree.root.put [] (Utf8.ofString "dex.cmd") .directory

/-- The run ends there, although the source fails too and another launcher could be written. -/
theorem aborts_where_name_is_taken :
    (standard.runOver (.memory (Utf8.ofString "-ac_name=DEX &\n-ac_name=BEER\n-ac_na")
        (some .isDirectory)) 8192 [] taken).result =
      .error (.outputWrite (Utf8.ofString "./dex.cmd") .isDirectory) ∧
    (standard.runOver (.memory (Utf8.ofString "-ac_name=DEX &\n-ac_name=BEER\n-ac_na")
        (some .isDirectory)) 8192 [] taken).tree = taken :=
  ((aborts_at_first_failure rfl _ _ [] taken).1 rfl).failed 8192 []
    (Utf8.ofString "-ac_name=DEX &\n") [Utf8.ofString "-ac_name=BEER\n"]
    ⟨Utf8.ofString "DEX", Utf8.ofString "dex.cmd", Utf8.ofString "-ac_name=DEX"⟩ .isDirectory taken
    (by decide) (by decide) ⟨taken, WritesAll.done taken, by decide, rfl⟩

end Generator

end ChainLaunchers
