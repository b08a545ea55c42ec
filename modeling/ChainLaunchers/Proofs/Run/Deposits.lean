/-
Module: ChainLaunchers.Proofs.Run.Deposits
Purpose: What treating lines does to the tree: one deposit in the output directory for each
  launcher, where the initial tree decides which of them are written.
Trusted boundary: none
Main exports:
  Generator.depositAll, Generator.Lands, Fate.attempted?, Generator.treat_tree,
  Generator.treatAll_eq_depositAll, Generator.Suits, Generator.suits_treatAll, Generator.Treats,
  Generator.treats_treatAll, Generator.isDirectory_depositAll, Generator.fileAt?_depositAll,
  Generator.readFile_depositAll, Generator.depositAll_again
-/
import ChainLaunchers.Run.Fate
import ChainLaunchers.Proofs.Generator.FileName
import ChainLaunchers.Proofs.Run.Reading
import ChainLaunchers.Proofs.Tree.Deposit
import Mathlib.Data.List.Induction

namespace ChainLaunchers

/-- The launcher of a line that was written, or whose write failed. -/
def Fate.attempted? : Fate → Option Launcher
  | .written launcher | .refused launcher _ | .fatal launcher _ => some launcher
  | .skipped | .planned _ => none

namespace Generator

/-! ### Deposits in the output directory -/

/-- The tree after a launcher has been written, or after the attempt. -/
def depositOne (generator : Generator) (tree : Tree) (launcher : Launcher) : Tree :=
  tree.deposit generator.outputDirectory launcher.fileName launcher.content

/-- The tree after all of some launchers. -/
def depositAll (generator : Generator) (tree : Tree) (launchers : List Launcher) : Tree :=
  launchers.foldl generator.depositOne tree

/-- Whether a launcher of this file name can be written. -/
def Lands (generator : Generator) (tree : Tree) (name : Name) : Prop :=
  (tree.landing? generator.outputDirectory name).isSome = true

instance (generator : Generator) (tree : Tree) (name : Name) :
    Decidable (generator.Lands tree name) := inferInstanceAs (Decidable (_ = true))

variable {generator : Generator}

theorem depositAll_cons (tree : Tree) (launcher : Launcher) (rest : List Launcher) :
    generator.depositAll tree (launcher :: rest) =
      generator.depositAll (generator.depositOne tree launcher) rest := rfl

theorem depositAll_concat (tree : Tree) (earlier : List Launcher) (last : Launcher) :
    generator.depositAll tree (earlier ++ [last]) =
      generator.depositOne (generator.depositAll tree earlier) last := by
  rw [depositAll, List.foldl_append]
  rfl

theorem landing?_depositOne (tree : Tree) (launcher : Launcher) (name : Name) :
    (generator.depositOne tree launcher).landing? generator.outputDirectory name =
      tree.landing? generator.outputDirectory name :=
  Tree.landing?_deposit tree _ _ _ name

/-- Which files can be written, and where they go, is decided by the initial tree. -/
theorem landing?_depositAll (tree : Tree) (launchers : List Launcher) (name : Name) :
    (generator.depositAll tree launchers).landing? generator.outputDirectory name =
      tree.landing? generator.outputDirectory name := by
  induction launchers generalizing tree with
  | nil => rfl
  | cons launcher rest ih =>
      rw [depositAll_cons, ih, landing?_depositOne]

theorem target?_depositAll (tree : Tree) (launchers : List Launcher) (name : Name) :
    (generator.depositAll tree launchers).target? generator.outputDirectory name =
      tree.target? generator.outputDirectory name := by
  rw [Tree.target?, landing?_depositAll, Tree.target?]

/-- A launcher can be written if its file has a place. -/
theorem lands_iff {tree : Tree} {name : Name} :
    generator.Lands tree name ↔
      ∃ place, tree.target? generator.outputDirectory name = some place := by
  simp only [Lands, Option.isSome_iff_exists, Tree.target?, Option.map_eq_some_iff]
  constructor
  · rintro ⟨above, landing⟩
    exact ⟨_, above, landing, rfl⟩
  · rintro ⟨_, above, landing, -⟩
    exact ⟨above, landing⟩

theorem lands_depositOne (tree : Tree) (launcher : Launcher) (name : Name) :
    generator.Lands (generator.depositOne tree launcher) name ↔ generator.Lands tree name := by
  rw [Lands, landing?_depositOne, Lands]

theorem isEntryName_of_mem_launchers (accepted : generator.IsAccepted) {lines : List Bytes}
    {launcher : Launcher} (mem : launcher ∈ generator.launchers lines) :
    Path.IsEntryName launcher.fileName := by
  obtain ⟨line, -, found⟩ := List.mem_filterMap.1 mem
  exact accepted.isEntryName found

/-! ### Treating lines -/

/-- A launcher that lands is written. -/
theorem treat_of_lands (accepted : generator.IsAccepted) (real : generator.dryRun = false)
    {line : Bytes} {launcher : Launcher} (found : generator.launcher? line = some launcher)
    {tree : Tree} (lands : generator.Lands tree launcher.fileName) :
    generator.treat tree line = (.written launcher, generator.depositOne tree launcher) := by
  obtain ⟨sameTree, sameFailure⟩ := Tree.writeFile_join (accepted.isEntryName found) tree
    generator.outputDirectory launcher.content
  have succeeds := sameFailure.2 lands
  rw [depositOne, ← sameTree]
  apply treat_written real found
  rw [pathOf, ← succeeds]

/-- A launcher that does not land is refused or ends the run. -/
theorem treat_of_not_lands (accepted : generator.IsAccepted) (real : generator.dryRun = false)
    {line : Bytes} {launcher : Launcher} (found : generator.launcher? line = some launcher)
    {tree : Tree} (blocked : ¬generator.Lands tree launcher.fileName) :
    ∃ cause, generator.treat tree line =
      (if generator.keepGoing then .refused launcher cause else .fatal launcher cause,
        generator.depositOne tree launcher) := by
  obtain ⟨sameTree, sameFailure⟩ := Tree.writeFile_join (accepted.isEntryName found) tree
    generator.outputDirectory launcher.content
  obtain ⟨cause, fails⟩ := Option.ne_none_iff_exists'.1 (mt sameFailure.1 blocked)
  rw [depositOne, ← sameTree]
  refine ⟨cause, ?_⟩
  apply treat_failed real found
  rw [pathOf, ← fails]

/-- A line leaves the tree alone, or its launcher is attempted and has its deposit. -/
theorem treat_attempt (accepted : generator.IsAccepted) (tree : Tree) (line : Bytes) :
    ((generator.treat tree line).1.attempted? = none ∧ (generator.treat tree line).2 = tree) ∨
      ∃ launcher, generator.launcher? line = some launcher ∧
        (generator.treat tree line).1.attempted? = some launcher ∧
        (generator.treat tree line).2 = generator.depositOne tree launcher := by
  have deposits : ∀ launcher, generator.launcher? line = some launcher →
      (tree.writeFile (generator.pathOf launcher) launcher.content).tree =
        generator.depositOne tree launcher := by
    intro launcher found
    exact (Tree.writeFile_join (accepted.isEntryName found) tree _ _).1
  have step := treated_treat generator tree line
  generalize generator.treat tree line = treated at step ⊢
  cases step with
  | skipped unnamed => exact Or.inl ⟨rfl, rfl⟩
  | planned found dry => exact Or.inl ⟨rfl, rfl⟩
  | written found real written =>
      refine Or.inr ⟨_, found, rfl, ?_⟩
      rw [← deposits _ found, written]
  | failed found real failed =>
      refine Or.inr ⟨_, found, ?_, ?_⟩
      · split
        · rfl
        · rfl
      · rw [← deposits _ found, failed]

/-- A line changes the tree by the deposit of its launcher at most. -/
theorem treat_tree (accepted : generator.IsAccepted) (tree : Tree) (line : Bytes) :
    (generator.treat tree line).2 = tree ∨
      ∃ launcher, generator.launcher? line = some launcher ∧
        (generator.treat tree line).2 = generator.depositOne tree launcher := by
  rcases treat_attempt accepted tree line with ⟨-, unchanged⟩ | ⟨launcher, found, -, deposited⟩
  · exact Or.inl unchanged
  · exact Or.inr ⟨launcher, found, deposited⟩

/-- A line changes nothing about what can be written. -/
theorem lands_treat (accepted : generator.IsAccepted) (tree : Tree) (line : Bytes) (name : Name) :
    generator.Lands (generator.treat tree line).2 name ↔ generator.Lands tree name := by
  rcases treat_tree accepted tree line with unchanged | ⟨launcher, -, deposited⟩
  · rw [unchanged]
  · rw [deposited, lands_depositOne]

/-- Lines change the tree by the deposits of the launchers that are attempted. -/
theorem treatAll_eq_depositAll (accepted : generator.IsAccepted) (tree : Tree)
    (lines : List Bytes) :
    (generator.treatAll tree lines).2 =
      generator.depositAll tree ((generator.treatAll tree lines).1.filterMap Fate.attempted?) := by
  have first : ∀ (before : Tree) (line : Bytes) (others : List Fate),
      generator.depositAll before (((generator.treat before line).1 :: others).filterMap
          Fate.attempted?) =
        generator.depositAll (generator.treat before line).2 (others.filterMap
          Fate.attempted?) := by
    intro before line others
    rcases treat_attempt accepted before line with
      ⟨nothing, unchanged⟩ | ⟨launcher, -, attempted, deposited⟩
    · rw [List.filterMap_cons_none nothing, unchanged]
    · rw [List.filterMap_cons_some attempted, deposited, depositAll_cons]
  induction lines generalizing tree with
  | nil => rfl
  | cons line rest ih =>
      rw [treatAll_cons]
      split
      · rw [first]
        rfl
      · rw [first]
        exact ih (generator.treat tree line).2

theorem launcher?_of_attempted (accepted : generator.IsAccepted) {tree : Tree} {line : Bytes}
    {launcher : Launcher}
    (attempted : (generator.treat tree line).1.attempted? = some launcher) :
    generator.launcher? line = some launcher := by
  rcases treat_attempt accepted tree line with ⟨nothing, -⟩ | ⟨other, found, same, -⟩
  · rw [nothing] at attempted
    cases attempted
  · rw [found, ← same, attempted]

/-- A launcher that is attempted is that of a line. -/
theorem mem_launchers_of_attempted (accepted : generator.IsAccepted) {tree : Tree}
    {lines : List Bytes} {launcher : Launcher}
    (mem : launcher ∈ (generator.treatAll tree lines).1.filterMap Fate.attempted?) :
    launcher ∈ generator.launchers lines := by
  obtain ⟨fate, present, attempted⟩ := List.mem_filterMap.1 mem
  obtain ⟨before, line, lineMem, rfl⟩ := exists_treat_of_mem_treatAll present
  exact List.mem_filterMap.2 ⟨line, lineMem, launcher?_of_attempted accepted attempted⟩

/-- What the fate of a line says about the generator and the tree: a dry run plans, and a real one
writes the launchers that land, and no others. -/
def Suits (generator : Generator) (tree : Tree) : Fate → Prop
  | .skipped => True
  | .planned _ => generator.dryRun = true
  | .written launcher => generator.dryRun = false ∧ generator.Lands tree launcher.fileName
  | .refused launcher _ | .fatal launcher _ =>
    generator.dryRun = false ∧ ¬generator.Lands tree launcher.fileName

theorem suits_treat (accepted : generator.IsAccepted) (tree : Tree) (line : Bytes) :
    generator.Suits tree (generator.treat tree line).1 := by
  cases found : generator.launcher? line with
  | none =>
      rw [treat_skipped found]
      trivial
  | some launcher =>
      cases flag : generator.dryRun with
      | true =>
          rw [treat_planned flag found]
          exact flag
      | false =>
          by_cases lands : generator.Lands tree launcher.fileName
          · rw [treat_of_lands accepted flag found lands]
            exact ⟨flag, lands⟩
          · obtain ⟨cause, treated⟩ := treat_of_not_lands accepted flag found lands
            rw [treated]
            split
            · exact ⟨flag, lands⟩
            · exact ⟨flag, lands⟩

/-- All fates suit the initial tree. -/
theorem suits_treatAll (accepted : generator.IsAccepted) {tree : Tree} {lines : List Bytes}
    {fate : Fate} (mem : fate ∈ (generator.treatAll tree lines).1) : generator.Suits tree fate := by
  -- What the lines before have left takes the same files as the initial tree.
  have step : ∀ later line, (∀ name, generator.Lands later name ↔ generator.Lands tree name) →
      ∀ name, generator.Lands (generator.treat later line).2 name ↔ generator.Lands tree name :=
    fun later line same name => (lands_treat accepted later line name).trans (same name)
  obtain ⟨later, same, line, -, rfl⟩ := exists_treat_of_mem step (fun name => Iff.rfl) mem
  have suits := suits_treat accepted later line
  cases fate : (generator.treat later line).1 with
  | skipped => trivial
  | planned launcher => rwa [fate] at suits
  | written launcher => simpa only [fate, Suits, same] using suits
  | refused launcher cause => simpa only [fate, Suits, same] using suits
  | fatal launcher cause => simpa only [fate, Suits, same] using suits

/-- A launcher that is written lands in the initial tree. -/
theorem lands_of_written (accepted : generator.IsAccepted) {tree : Tree} {lines : List Bytes}
    {launcher : Launcher} (mem : Fate.written launcher ∈ (generator.treatAll tree lines).1) :
    generator.Lands tree launcher.fileName :=
  (suits_treatAll accepted mem).2

/-- What lines come to when failures are recorded: every launcher has its deposit, and those
that land in the initial tree are the ones that are written. -/
structure Treats (generator : Generator) (tree : Tree) (launchers : List Launcher)
    (treated : List Fate × Tree) : Prop where
  going : stops treated.1 = false
  last : treated.2 = generator.depositAll tree launchers
  done : treated.1.filterMap Fate.done? =
    launchers.filter fun launcher => generator.Lands tree launcher.fileName
  refused : (treated.1.filterMap Fate.refused?).map Prod.fst =
    launchers.filter fun launcher => ¬generator.Lands tree launcher.fileName

theorem treats_treatAll (accepted : generator.IsAccepted) (real : generator.dryRun = false)
    (going : generator.keepGoing = true) (tree : Tree) (lines : List Bytes) :
    generator.Treats tree (generator.launchers lines) (generator.treatAll tree lines) := by
  induction lines generalizing tree with
  | nil => exact ⟨rfl, rfl, rfl, rfl⟩
  | cons line rest ih =>
      rw [treatAll_cons]
      cases found : generator.launcher? line with
      | none =>
          rw [treat_skipped found, launchers_cons_none found]
          obtain ⟨goesOn, last, done, refused⟩ := ih tree
          exact ⟨goesOn, last, done, refused⟩
      | some launcher =>
          rw [launchers_cons_some found]
          obtain ⟨goesOn, last, done, refused⟩ := ih (generator.depositOne tree launcher)
          simp only [lands_depositOne] at done refused
          by_cases lands : generator.Lands tree launcher.fileName
          · rw [treat_of_lands accepted real found lands]
            refine ⟨goesOn, last, ?_, ?_⟩
            · rw [List.filter_cons_of_pos (by simpa using lands), ← done]
              rfl
            · rw [List.filter_cons_of_neg (by simpa using lands), ← refused]
              rfl
          · obtain ⟨cause, treated⟩ := treat_of_not_lands accepted real found lands
            rw [treated, going]
            refine ⟨goesOn, last, ?_, ?_⟩
            · rw [List.filter_cons_of_neg (by simpa using lands), ← done]
              rfl
            · rw [List.filter_cons_of_pos (by simpa using lands), ← refused]
              rfl

theorem Treats.written {tree : Tree} {launchers : List Launcher} {treated : List Fate × Tree}
    (treats : generator.Treats tree launchers treated) :
    (Report.ofFates generator treated.1).written =
      (launchers.filter fun launcher => generator.Lands tree launcher.fileName).map
        generator.pathOf := by
  rw [Report.ofFates, treats.done]

theorem Treats.failed {tree : Tree} {launchers : List Launcher} {treated : List Fate × Tree}
    (treats : generator.Treats tree launchers treated) :
    (Report.ofFates generator treated.1).failed.map FailedWrite.path =
      (launchers.filter fun launcher => ¬generator.Lands tree launcher.fileName).map
        generator.pathOf := by
  rw [failed_ofFates, treats.refused]

/-! ### What deposits leave -/

theorem keepsDirectories_depositOne (generator : Generator) (tree : Tree) (launcher : Launcher) :
    Tree.KeepsDirectories tree (generator.depositOne tree launcher) :=
  (Tree.keepsDirectories_settle tree generator.outputDirectory).trans
    (Tree.keepsDirectories_deposit tree generator.outputDirectory launcher.fileName
      launcher.content)

theorem keepsDirectories_depositAll (generator : Generator) (tree : Tree)
    (launchers : List Launcher) :
    Tree.KeepsDirectories tree (generator.depositAll tree launchers) := by
  induction launchers generalizing tree with
  | nil => exact Tree.KeepsDirectories.refl tree
  | cons launcher rest ih =>
      have first := keepsDirectories_depositOne generator tree launcher
      exact first.trans (ih (generator.depositOne tree launcher))

/-- A directory that is new after some launchers is one that a beginning of the path of the
output directory leads to. -/
theorem isDirectory_depositAll {tree : Tree} {launchers : List Launcher} {place : Place}
    (present : (generator.depositAll tree launchers).node? place = some .directory) :
    tree.node? place = some .directory ∨
      ∃ first, first <+: generator.outputDirectory.segments ∧
        (generator.depositAll tree launchers).directoryAt generator.outputDirectory first =
          .ok place := by
  induction launchers generalizing tree with
  | nil => exact Or.inl present
  | cons launcher rest ih =>
      rcases ih present with earlier | later
      · rcases Tree.isDirectory_deposit earlier with old | ⟨first, begins, entered⟩
        · exact Or.inl old
        · have kept := keepsDirectories_depositAll generator
            (generator.depositOne tree launcher) rest
          exact Or.inr ⟨first, begins, Tree.directoryAt_mono kept entered⟩
      · exact Or.inr later

theorem settle_depositOne (generator : Generator) (tree : Tree) (launcher : Launcher) :
    ((generator.depositOne tree launcher).settle generator.outputDirectory).1 =
      generator.depositOne tree launcher := by
  rw [depositOne, Tree.settle_deposit]

/-- After a launcher the output directory is settled, and stays so. -/
theorem settle_depositAll (generator : Generator) (tree : Tree) {launchers : List Launcher}
    (some : launchers ≠ []) :
    ((generator.depositAll tree launchers).settle generator.outputDirectory).1 =
      generator.depositAll tree launchers := by
  induction launchers using List.reverseRecOn with
  | nil => exact absurd rfl some
  | append_singleton earlier last =>
      rw [depositAll_concat, settle_depositOne]

/-- The launchers that are written to a place, when `tree` is the initial tree. -/
def aimedAt (generator : Generator) (tree : Tree) (place : Place) (launchers : List Launcher) :
    List Launcher :=
  launchers.filter fun launcher =>
    tree.target? generator.outputDirectory launcher.fileName = some place

/-- The launchers that are written to the place of a file name are those with this name. -/
theorem aimedAt_of_target {tree : Tree} {name : Name} {place : Place}
    (target : tree.target? generator.outputDirectory name = some place)
    (launchers : List Launcher) :
    generator.aimedAt tree place launchers =
      launchers.filter fun launcher => launcher.fileName = name := by
  apply List.filter_congr
  intro launcher _
  rw [decide_eq_decide]
  constructor
  · intro own
    exact Tree.target?_injective own target
  · rintro rfl
    exact target

/-- A file holds what the last launcher says that is written to its place, and a file that none
is written to stays as it is. -/
theorem fileAt?_depositAll (generator : Generator) (tree : Tree) (launchers : List Launcher)
    (place : Place) :
    (generator.depositAll tree launchers).fileAt? place =
      match (generator.aimedAt tree place launchers).getLast? with
      | some last => some last.content
      | none => tree.fileAt? place := by
  induction launchers using List.reverseRecOn with
  | nil => rfl
  | append_singleton earlier last ih =>
      rw [depositAll_concat, depositOne, Tree.fileAt?_deposit, target?_depositAll, ih, aimedAt,
        aimedAt, List.filter_append]
      by_cases own : tree.target? generator.outputDirectory last.fileName = some place
      · rw [if_pos own, List.filter_cons_of_pos (by simpa using own), List.filter_nil,
          List.getLast?_concat]
      · rw [if_neg own, List.filter_cons_of_neg (by simpa using own), List.filter_nil,
          List.append_nil]

/-- The file of a launcher that lands can be read, and the last launcher for it is found there. -/
theorem readFile_depositAll {tree : Tree} {launchers : List Launcher} {launcher : Launcher}
    (mem : launcher ∈ launchers) (entry : Path.IsEntryName launcher.fileName) {place : Place}
    (target : tree.target? generator.outputDirectory launcher.fileName = some place) :
    ∃ final, (generator.aimedAt tree place launchers).getLast? = some final ∧
      (generator.depositAll tree launchers).readFile (generator.pathOf launcher) =
        .ok final.content := by
  have present := fileAt?_depositAll generator tree launchers place
  cases last : (generator.aimedAt tree place launchers).getLast? with
  | none =>
      have nothing := List.filter_eq_nil_iff.1 (List.getLast?_eq_none_iff.1 last)
      exact absurd (decide_eq_true target) (nothing launcher mem)
  | some final =>
      rw [last] at present
      have settled := settle_depositAll generator tree (List.ne_nil_of_mem mem)
      refine ⟨final, rfl, ?_⟩
      refine (Tree.readFile_of_target entry settled ?_ present).2
      rw [target?_depositAll, target]

/-! ### Directories after deposits -/

/-- In a tree whose output directory is settled, launchers add no directory. -/
theorem isDirectory_depositAll_iff {tree : Tree}
    (settled : (tree.settle generator.outputDirectory).1 = tree) (launchers : List Launcher)
    (place : Place) :
    (generator.depositAll tree launchers).node? place = some .directory ↔
      tree.node? place = some .directory := by
  induction launchers generalizing tree with
  | nil => exact Iff.rfl
  | cons launcher rest ih =>
      rw [depositAll_cons, ih (settle_depositOne generator tree launcher), depositOne,
        Tree.isDirectory_deposit_iff, settled]

/-- Launchers add the directories on the way to the output directory, and no others. -/
theorem isDirectory_depositAll_of_ne_nil (tree : Tree) {launchers : List Launcher}
    (nonempty : launchers ≠ []) (place : Place) :
    (generator.depositAll tree launchers).node? place = some .directory ↔
      (tree.settle generator.outputDirectory).1.node? place = some .directory := by
  obtain ⟨launcher, rest, rfl⟩ := List.exists_cons_of_ne_nil nonempty
  rw [depositAll_cons, isDirectory_depositAll_iff (settle_depositOne generator tree launcher),
    depositOne, Tree.isDirectory_deposit_iff]

/-! ### Depositing again -/

/-- Launchers that have been deposited change nothing when they are deposited once more. -/
theorem depositAll_again (generator : Generator) (tree : Tree) (launchers : List Launcher) :
    generator.depositAll (generator.depositAll tree launchers) launchers =
      generator.depositAll tree launchers := by
  by_cases none : launchers = []
  · rw [none]
    rfl
  · apply Tree.ext_of_fileAt?
    · intro place
      -- The last launcher for a place is the same one both times.
      have aimed : generator.aimedAt (generator.depositAll tree launchers) place launchers =
          generator.aimedAt tree place launchers := by
        simp only [aimedAt, target?_depositAll]
      have first := fileAt?_depositAll generator tree launchers place
      rw [fileAt?_depositAll, aimed]
      cases last : (generator.aimedAt tree place launchers).getLast? with
      | none => rfl
      | some final =>
          rw [last] at first
          exact first.symm
    · exact isDirectory_depositAll_iff (settle_depositAll generator tree none) launchers
    · exact (keepsDirectories_depositAll generator _ launchers).working

end Generator

end ChainLaunchers
