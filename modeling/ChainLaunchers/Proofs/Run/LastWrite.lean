/-
Module: ChainLaunchers.Proofs.Run.LastWrite
Purpose: A run that goes on after failures stores for each file name what its last line says, or
  refuses the name altogether, and touches nothing else.
Trusted boundary: none
Main exports:
  Generator.Stored, Generator.Refused, Generator.LastWriteWins, Generator.last_write_wins
-/
import ChainLaunchers.Proofs.Run.Deposits
import Mathlib.Logic.Basic

namespace ChainLaunchers

namespace Generator

/-! ### What a complete run leaves -/

/-- A file name is stored: the path of each of its launchers is among those written, and the
file holds what the last of them says. -/
structure Stored (generator : Generator) (launchers : List Launcher) (report : Report)
    (after : Tree) (name : Name) : Prop where
  written : report.written.count (generator.outputDirectory.join name) =
    launchers.countP fun launcher => launcher.fileName = name
  unfailed : generator.outputDirectory.join name ∉ report.failed.map FailedWrite.path
  content : ∃ last,
    (launchers.filter fun launcher => launcher.fileName = name).getLast? = some last ∧
      after.readFile (generator.outputDirectory.join name) = .ok last.content

/-- A file name is refused: the path of each of its launchers is among the failed ones, and
what can be read there is what could be read there before. -/
structure Refused (generator : Generator) (launchers : List Launcher) (report : Report)
    (before after : Tree) (name : Name) : Prop where
  failed : (report.failed.map FailedWrite.path).count (generator.outputDirectory.join name) =
    launchers.countP fun launcher => launcher.fileName = name
  unwritten : generator.outputDirectory.join name ∉ report.written
  untouched : ∀ content, after.readFile (generator.outputDirectory.join name) = .ok content ↔
    before.readFile (generator.outputDirectory.join name) = .ok content

/-- What some launchers come to in the output directory: each file name is stored or refused,
and everything else is left alone. -/
structure LastWriteWins (generator : Generator) (launchers : List Launcher) (report : Report)
    (before after : Tree) : Prop where
  names : ∀ launcher ∈ launchers, Xor (generator.Stored launchers report after launcher.fileName)
    (generator.Refused launchers report before after launcher.fileName)
  /-- A file that no written path leads to is as it was, or is missing as it was. -/
  files : ∀ place, (∀ path ∈ report.written, after.locate path ≠ .ok place) →
    after.fileAt? place = before.fileAt? place
  /-- A new directory is what a beginning of the path of the output directory leads to. -/
  directories : ∀ place, after.node? place = some .directory →
    before.node? place = some .directory ∨
      ∃ first, first <+: generator.outputDirectory.segments ∧
        after.directoryAt generator.outputDirectory first = .ok place
  kept : Tree.KeepsDirectories before after
  idle : launchers = [] → after = before

/-! ### Counting paths -/

variable {generator : Generator}

/-- Paths are counted like the file names that they end with. -/
theorem count_pathOf {launchers : List Launcher}
    (entries : ∀ launcher ∈ launchers, Path.IsEntryName launcher.fileName) {name : Name}
    (entry : Path.IsEntryName name) (kept : Name → Bool) :
    ((launchers.filter fun launcher => kept launcher.fileName).map generator.pathOf).count
        (generator.outputDirectory.join name) =
      if kept name then launchers.countP fun launcher => launcher.fileName = name else 0 := by
  rw [List.count, List.countP_map, List.countP_filter]
  have same : ∀ launcher ∈ launchers,
      (generator.pathOf launcher == generator.outputDirectory.join name) =
        decide (launcher.fileName = name) := by
    intro launcher mem
    rw [Bool.beq_eq_decide_eq, decide_eq_decide]
    constructor
    · intro joined
      exact Path.join_injective (entries launcher mem) entry joined
    · rintro rfl
      rfl
  cases keeps : kept name with
  | true =>
      rw [if_pos rfl]
      apply List.countP_congr
      intro launcher mem
      simp only [Function.comp_apply, same launcher mem, Bool.and_eq_true, decide_eq_true_eq]
      constructor
      · exact And.left
      · rintro rfl
        exact ⟨rfl, keeps⟩
  | false =>
      rw [if_neg Bool.false_ne_true, List.countP_eq_zero]
      intro launcher mem
      simp only [Function.comp_apply, same launcher mem, Bool.and_eq_true, decide_eq_true_eq]
      rintro ⟨rfl, holds⟩
      rw [keeps] at holds
      cases holds

/-! ### Stored and refused names -/

section

variable {launchers : List Launcher} {before : Tree} {treated : List Fate × Tree}
  (entries : ∀ launcher ∈ launchers, Path.IsEntryName launcher.fileName)
  (treats : generator.Treats before launchers treated)

include entries treats

theorem stored_of_lands {launcher : Launcher} (mem : launcher ∈ launchers)
    (lands : generator.Lands before launcher.fileName) :
    generator.Stored launchers (Report.ofFates generator treated.1) treated.2
      launcher.fileName := by
  have entry := entries launcher mem
  obtain ⟨place, target⟩ := lands_iff.1 lands
  constructor
  · rw [treats.written, count_pathOf entries entry (fun name => generator.Lands before name),
      if_pos (by simpa using lands)]
  · apply List.count_eq_zero.1
    rw [treats.failed, count_pathOf entries entry (fun name => ¬generator.Lands before name),
      if_neg (by simpa using lands)]
  · rw [treats.last, ← aimedAt_of_target target]
    exact readFile_depositAll mem entry target

theorem refused_of_not_lands {launcher : Launcher} (mem : launcher ∈ launchers)
    (blocked : ¬generator.Lands before launcher.fileName) :
    generator.Refused launchers (Report.ofFates generator treated.1) before treated.2
      launcher.fileName := by
  have entry := entries launcher mem
  have landing : before.landing? generator.outputDirectory launcher.fileName = none :=
    Option.not_isSome_iff_eq_none.1 blocked
  constructor
  · rw [treats.failed, count_pathOf entries entry (fun name => ¬generator.Lands before name),
      if_pos (by simpa using blocked)]
  · apply List.count_eq_zero.1
    rw [treats.written, count_pathOf entries entry (fun name => generator.Lands before name),
      if_neg (by simpa using blocked)]
  · -- There is no file before the run, and none after it.
    intro content
    have missing := Tree.readFile_of_landing?_eq_none entry landing content
    rw [← landing?_depositAll before launchers] at landing
    have stillMissing := Tree.readFile_of_landing?_eq_none entry landing content
    rw [← treats.last] at stillMissing
    exact iff_of_false stillMissing missing

/-- Each file name is stored or refused, and not both. -/
theorem stored_xor_refused {launcher : Launcher} (mem : launcher ∈ launchers) :
    Xor (generator.Stored launchers (Report.ofFates generator treated.1) treated.2
        launcher.fileName)
      (generator.Refused launchers (Report.ofFates generator treated.1) before treated.2
        launcher.fileName) := by
  have occurs : 0 < launchers.countP fun other => other.fileName = launcher.fileName :=
    List.countP_pos_iff.2 ⟨launcher, mem, decide_eq_true rfl⟩
  by_cases lands : generator.Lands before launcher.fileName
  · have stored := stored_of_lands entries treats mem lands
    refine Or.inl ⟨stored, ?_⟩
    intro refused
    apply refused.unwritten
    apply List.count_pos_iff.1
    rw [stored.written]
    exact occurs
  · have refused := refused_of_not_lands entries treats mem lands
    refine Or.inr ⟨refused, ?_⟩
    intro stored
    apply stored.unfailed
    apply List.count_pos_iff.1
    rw [refused.failed]
    exact occurs

/-- A file that has changed is one that a written path leads to. -/
theorem fileAt?_of_unwritten {place : Place}
    (unwritten : ∀ path ∈ (Report.ofFates generator treated.1).written,
      treated.2.locate path ≠ .ok place) :
    treated.2.fileAt? place = before.fileAt? place := by
  rw [treats.last] at unwritten ⊢
  have present := fileAt?_depositAll generator before launchers place
  cases last : (generator.aimedAt before place launchers).getLast? with
  | none => rwa [last] at present
  | some final =>
      rw [last] at present
      obtain ⟨mem, aimed⟩ := List.mem_filter.1 (List.mem_of_getLast? last)
      have target := of_decide_eq_true aimed
      have lands := lands_iff.2 ⟨place, target⟩
      have settled := settle_depositAll generator before (List.ne_nil_of_mem mem)
      rw [← target?_depositAll before launchers] at target
      have located := (Tree.readFile_of_target (entries final mem) settled target present).1
      refine absurd located (unwritten _ ?_)
      rw [treats.written]
      exact List.mem_map_of_mem (List.mem_filter.2 ⟨mem, decide_eq_true lands⟩)

/-- Treating lines, where failures are recorded, comes to what the last writes say. -/
theorem lastWriteWins_of_treats :
    generator.LastWriteWins launchers (Report.ofFates generator treated.1) before treated.2 := by
  constructor
  · intro launcher mem
    exact stored_xor_refused entries treats mem
  · intro place unwritten
    exact fileAt?_of_unwritten entries treats unwritten
  · intro place present
    rw [treats.last] at present ⊢
    exact isDirectory_depositAll present
  · rw [treats.last]
    exact keepsDirectories_depositAll generator before launchers
  · rintro rfl
    exact treats.last

end

/-! ### Whole runs -/

/-- The last write wins.  A run of an accepted generator that goes on after failures comes to a
report, whatever the data and the tree: for each file name either all launchers are written and
the file holds what the last of them says, or all of them are refused; and nothing else in the
tree is touched but directories on the way to the output directory. -/
theorem last_write_wins (accepted : generator.IsAccepted) (real : generator.dryRun = false)
    (going : generator.keepGoing = true) (data : Bytes) {size : Nat} (positive : 0 < size)
    (label : Path) (before : Tree) :
    ∃ report, (generator.runOver (.memory data none) size label before).result = .ok report ∧
      generator.LastWriteWins (generator.launchers (Line.ofData data)) report before
        (generator.runOver (.memory data none) size label before).tree := by
  have treats := treats_treatAll accepted real going before (Line.ofData data)
  rw [runOver, run_memory_none generator positive]
  refine ⟨_, result_of_going treats.going label, ?_⟩
  apply lastWriteWins_of_treats _ treats
  intro launcher mem
  exact isEntryName_of_mem_launchers accepted mem

/-- Two lines of one chain, written in different case, share a file. -/
theorem last_write_wins_of_two_cases :
    ∃ report, ({ standard with keepGoing := true }.runOver (.memory (Utf8.ofString
        "./komodod -ac_name=DEX\n-ac_name=dex -ac_supply=9 &\n") none) 8192 [] Tree.root).result =
          .ok report ∧
      { standard with keepGoing := true }.LastWriteWins
        ({ standard with keepGoing := true }.launchers (Line.ofData (Utf8.ofString
          "./komodod -ac_name=DEX\n-ac_name=dex -ac_supply=9 &\n"))) report Tree.root
        ({ standard with keepGoing := true }.runOver (.memory (Utf8.ofString
          "./komodod -ac_name=DEX\n-ac_name=dex -ac_supply=9 &\n") none) 8192 [] Tree.root).tree :=
  last_write_wins (isAccepted_standard false true) rfl rfl _ (by decide) [] Tree.root

end Generator

end ChainLaunchers
