/-
Module: ChainLaunchers.Proofs.Run.Containment
Purpose: Whatever the lines say, a run of accepted settings changes no file but direct children
  of the output directory.
Trusted boundary: none
Main exports:
  Generator.Confined, Generator.confined_run, Generator.Contained, Generator.contained_of_validate
-/
import ChainLaunchers.Proofs.Run.Deposits

namespace ChainLaunchers

namespace Generator

variable {generator : Generator}

/-! ### Files that change -/

/-- Every file that has come or changed is an entry of the directory that the path of the output
directory denotes now, under the file name of a chain. -/
structure Confined (generator : Generator) (before after : Tree) : Prop where
  kept : Tree.KeepsDirectories before after
  changes : ∀ place, after.fileAt? place ≠ before.fileAt? place →
    ∃ above chain, after.directoryAt generator.outputDirectory
        generator.outputDirectory.segments = .ok above ∧
      Marker.IsChainName chain ∧ place = above ++ [generator.fileName chain]

theorem Confined.refl (generator : Generator) (tree : Tree) : generator.Confined tree tree :=
  ⟨Tree.KeepsDirectories.refl tree, fun _ changed => absurd rfl changed⟩

theorem confined_depositOne {before tree : Tree} (confined : generator.Confined before tree)
    {line : Bytes} {launcher : Launcher} (found : generator.launcher? line = some launcher) :
    generator.Confined before (generator.depositOne tree launcher) := by
  obtain ⟨named, fileName⟩ := launcher?_eq_some found
  have kept := keepsDirectories_depositOne generator tree launcher
  constructor
  · exact confined.kept.trans kept
  · intro place changed
    by_cases own : tree.target? generator.outputDirectory launcher.fileName = some place
    · obtain ⟨above, denoted, rfl⟩ := Tree.directoryAt_of_target own launcher.content
      exact ⟨above, launcher.chain, denoted, named, by rw [fileName]⟩
    · rw [depositOne, Tree.fileAt?_deposit, if_neg own] at changed
      obtain ⟨above, chain, denoted, others⟩ := confined.changes place changed
      exact ⟨above, chain, Tree.directoryAt_mono kept denoted, others⟩

theorem confined_treat (accepted : generator.IsAccepted) {before tree : Tree}
    (confined : generator.Confined before tree) (line : Bytes) :
    generator.Confined before (generator.treat tree line).2 := by
  rcases treat_tree accepted tree line with unchanged | ⟨launcher, found, deposited⟩
  · rw [unchanged]
    exact confined
  · rw [deposited]
    exact confined_depositOne confined found

/-- A run is confined, whatever its source and however it ends. -/
theorem confined_run (accepted : generator.IsAccepted) (source : Source) (size : Nat)
    (tree : Tree) : generator.Confined tree (generator.run source size tree).tree := by
  apply readLines_preserves
  · intro middle line confined
    exact confined_treat accepted confined line
  · exact Confined.refl generator tree

/-! ### Containment -/

/-- The launchers of a generator stay in its output directory. -/
structure Contained (generator : Generator) : Prop where
  plain : ∀ line launcher, generator.launcher? line = some launcher →
    IsPlainName launcher.fileName
  /-- Joining the file name never discards the output directory. -/
  joined : ∀ line launcher, generator.launcher? line = some launcher →
    generator.outputDirectory <+: generator.pathOf launcher
  /-- The path of a launcher names a direct child of what the output directory denotes. -/
  child : ∀ line launcher, generator.launcher? line = some launcher →
    (generator.pathOf launcher).split.name = launcher.fileName ∧
      ∀ tree : Tree, tree.directoryAt (generator.pathOf launcher)
          (generator.pathOf launcher).split.directory =
        tree.directoryAt generator.outputDirectory generator.outputDirectory.segments
  sameName : ∀ line launcher line' launcher', generator.launcher? line = some launcher →
    generator.launcher? line' = some launcher' →
    (launcher.fileName = launcher'.fileName ↔
      Bytes.EqIgnoringCase launcher.chain launcher'.chain)
  /-- A file that a run creates or changes is a direct child of the output directory. -/
  children : ∀ source size label before place,
    (generator.runOver source size label before).tree.fileAt? place ≠ before.fileAt? place →
    ∃ above name, (generator.runOver source size label before).tree.directoryAt
        generator.outputDirectory generator.outputDirectory.segments = .ok above ∧
      IsPlainName name ∧ place = above ++ [name]

theorem contained_of_isAccepted (accepted : generator.IsAccepted) : generator.Contained := by
  constructor
  · intro line launcher found
    exact accepted.isPlainName found
  · intro line launcher found
    exact Path.prefix_join (accepted.isEntryName found) generator.outputDirectory
  · intro line launcher found
    have entry := accepted.isEntryName found
    constructor
    · rw [pathOf, Path.split_join entry]
    · intro tree
      exact Tree.directoryAt_join entry tree generator.outputDirectory
  · intro line launcher line' launcher' found found'
    obtain ⟨-, name⟩ := launcher?_eq_some found
    obtain ⟨-, name'⟩ := launcher?_eq_some found'
    rw [name, name', fileName_eq_iff]
  · intro source size label before place changed
    have confined := confined_run accepted source size before
    obtain ⟨above, chain, denoted, named, rfl⟩ := confined.changes place changed
    exact ⟨above, generator.fileName chain, denoted, isPlainName_fileName accepted named, rfl⟩

/-- Settings that validation accepts have a generator, and whatever its flags are, its launchers
stay in the output directory. -/
theorem contained_of_validate {settings : Settings} (valid : settings.validate = .ok ()) :
    ∃ base, ofSettings settings = .ok base ∧ base.outputDirectory = settings.outputDirectory ∧
      ∀ dryRun keepGoing, Contained { base with dryRun, keepGoing } := by
  obtain ⟨base, made⟩ := exists_ofSettings valid
  refine ⟨base, made, (ofSettings_eq_ok made).2.2, ?_⟩
  intro dryRun keepGoing
  exact contained_of_isAccepted ⟨settings, base, made, rfl⟩

/-- The settings of a run that is told nothing. -/
theorem contained_standard : Settings.standard.validate = .ok () ∧
    ∃ base, ofSettings Settings.standard = .ok base ∧
      base.outputDirectory = Settings.standard.outputDirectory ∧
      ∀ dryRun keepGoing, Contained { base with dryRun, keepGoing } :=
  ⟨Settings.validate_standard, contained_of_validate Settings.validate_standard⟩

end Generator

end ChainLaunchers
