/-
Module: ChainLaunchers.Proofs.Tree.WriteFile
Purpose: What writing a file does to a tree, for every path and content: it stores the file, or it
  fails and touches no file; besides, only directories of lexical ancestors are made.
Trusted boundary: none
Main exports:
  Tree.GrowsBy, Tree.Stores, Tree.Spares, Tree.WritesAt, Tree.growsBy_settle,
  Tree.stores_deposit, Tree.spares_settle, Tree.writes_at_every_path
-/
import ChainLaunchers.Proofs.Path.Parents
import ChainLaunchers.Proofs.Tree.Deposit

namespace ChainLaunchers

namespace Tree

/-! ### What a write may do -/

/-- Directories stay directories, and a directory that is new is where one of the paths leads. -/
structure GrowsBy (before after : Tree) (paths : List Path) : Prop where
  kept : KeepsDirectories before after
  added : ∀ place, after.node? place = some .directory →
    before.node? place = some .directory ∨ ∃ path ∈ paths, after.locate path = .ok place

/-- The path leads to a file with exactly this content, in the directory that its parent leads to.
Every other file is as it was, and what is new besides are directories of lexical ancestors. -/
structure Stores (before after : Tree) (path : Path) (content : Bytes) : Prop where
  file : ∃ above name, after.locate path.container = .ok above ∧
    after.node? above = some .directory ∧ after.locate path = .ok (above ++ [name]) ∧
    ∀ place, after.fileAt? place =
      if place = above ++ [name] then some content else before.fileAt? place
  content : after.readFile path = .ok content
  grows : before.GrowsBy after path.parents

/-- No file has come, gone or changed, and all that is new are directories of lexical ancestors.
There is nothing new at all if the path has no parent, an empty one, or one that led to a directory
before. -/
structure Spares (before after : Tree) (path : Path) : Prop where
  files : ∀ place, after.fileAt? place = before.fileAt? place
  grows : before.GrowsBy after path.parents
  unchanged : path.parent? = none ∨ path.parent? = some [] ∨
    (∃ parent, path.parent? = some parent ∧ before.isDirectoryPath parent = true) → after = before

/-- What becomes of writing to a path. -/
structure WritesAt (tree : Tree) (path : Path) : Prop where
  /-- A write succeeds exactly if the path ends with a name that a file can have in the directory
  before it, and that directory is there or can be made. -/
  succeeds : ∀ content, (tree.writeFile path content).failure = none ↔
    ∃ directory name, Path.IsEntryName name ∧ path = Path.join directory name ∧
      (tree.landing? directory name).isSome = true
  stored : ∀ content, (tree.writeFile path content).failure = none →
    tree.Stores (tree.writeFile path content).tree path content
  spared : ∀ content cause, (tree.writeFile path content).failure = some cause →
    tree.Spares (tree.writeFile path content).tree path
  /-- A second write undoes the first one. -/
  rewritten : ∀ first second,
    ((tree.writeFile path first).tree.writeFile path second).tree =
        (tree.writeFile path second).tree ∧
      ((tree.writeFile path first).tree.writeFile path second).failure.isNone =
        (tree.writeFile path second).failure.isNone

/-! ### Where ancestors lead -/

theorem locate_eq_ok_iff {tree : Tree} {path : Path} {place : Place} :
    tree.locate path = .ok place ↔
      path ≠ [] ∧ path.Fits ∧ tree.walk (tree.start path) path.segments = .ok place := by
  by_cases empty : path = []
  · subst empty
    exact iff_of_false nofun fun located => located.1 rfl
  · by_cases fits : path.Fits
    · simp only [locate, Path.check_of_fits empty fits, bind, Except.bind, ne_eq, empty,
        not_false_eq_true, fits, true_and]
    · obtain ⟨cause, refused, -⟩ := Path.check_of_not_fits fits
      simp [locate, refused, bind, Except.bind, fits]

/-- A directory that is entered along the segments of a path is where the path leads. -/
theorem locate_of_enter {tree : Tree} {path : Path} {place : Place} (nonempty : path ≠ [])
    (fits : path.Fits) (entered : tree.enter (tree.start path) path.segments = .ok place) :
    tree.locate path = .ok place :=
  locate_eq_ok_iff.2 ⟨nonempty, fits, (enter_eq_ok_iff.1 entered).1⟩

/-- A path that leads to a directory goes on to do so as long as directories are kept. -/
theorem locate_mono {earlier later : Tree} (keeps : KeepsDirectories earlier later) {path : Path}
    {place : Place} (located : earlier.locate path = .ok place)
    (directory : earlier.node? place = some .directory) : later.locate path = .ok place := by
  obtain ⟨nonempty, fits, walked⟩ := locate_eq_ok_iff.1 located
  apply locate_of_enter nonempty fits
  rw [keeps.start]
  exact enter_mono keeps (enter_eq_ok_iff.2 ⟨walked, directory⟩)

variable {tree : Tree} {path directory : Path}

/-- A directory that some of the components lead to is where a lexical ancestor leads, unless it
is the one that the path starts from. -/
theorem locate_ancestor (parent : path.parent?.getD [] = Path.trunk directory.inside)
    (fits : (Path.trunk directory.inside).Fits) {first : List Name} {place : Place}
    (begins : first <+: Path.components directory.segments) (nonempty : first ≠ [])
    (entered : tree.enter (tree.start directory) first = .ok place) :
    ∃ ancestor ∈ path.parents, tree.locate ancestor = .ok place := by
  rw [← Path.components_inside] at begins
  obtain ⟨front, name, separated, ordinary, rfl, mem, within⟩ :=
    Path.exists_ancestor (Path.separated_inside directory) begins nonempty
  have segments := Path.segments_trunk_concat separated ordinary
  have named := Path.ne_nil_of_segments segments ordinary
  have start : tree.start (Path.trunk (front ++ [name])) = tree.start directory := by
    obtain ⟨rest, whole⟩ := within
    rw [← start_trunk_inside tree directory, Tree.start, Tree.start, ← whole,
      Path.isAbsolute_append named]
  refine ⟨_, by rwa [Path.parents, parent], locate_of_enter named (fits.of_prefix within) ?_⟩
  rw [start, segments, ← enter_components (tree.start_isDirectory directory)]
  exact entered

/-- The path of the container leads to the directory that is settled before a name. -/
theorem locate_container (parent : path.parent?.getD [] = Path.trunk directory.inside)
    (fits : (Path.trunk directory.inside).Fits) {place : Place}
    (entered : tree.enter (tree.start directory) directory.segments = .ok place) :
    tree.locate path.container = .ok place := by
  have start := tree.start_isDirectory directory
  by_cases empty : Path.trunk directory.inside = []
  · -- Nothing comes before the name, so the directory path is empty too.
    have nothing : directory.inside = [] := (Path.trunk_eq_nil_iff _).1 empty
    have here : path.container = Path.here := by rw [Path.container, parent, empty]
    have relative : tree.start directory = tree.workingPlace := by
      rw [← start_trunk_inside, empty]
      rfl
    rw [← enter_components start, ← Path.components_inside, nothing, relative] at entered
    rw [here]
    refine locate_of_enter (by decide) (by decide) ?_
    rw [← enter_components (tree.start_isDirectory Path.here)]
    exact entered
  · rw [Path.container_of_ne_nil (by rwa [parent]), parent]
    refine locate_of_enter empty fits ?_
    rw [start_trunk_inside, ← enter_components start,
      Path.components_trunk (Path.separated_inside directory), Path.components_inside,
      enter_components start]
    exact entered

/-! ### Directories that are made -/

/-- What is new after settling the directory of a path are directories of its ancestors. -/
theorem growsBy_settle (tree : Tree)
    (parent : path.parent?.getD [] = Path.trunk directory.inside) :
    tree.GrowsBy (tree.settle directory).1 path.parents := by
  have kept := keepsDirectories_settle tree directory
  refine ⟨kept, ?_⟩
  intro place present
  by_cases fits : (Path.trunk directory.inside).Fits
  · rcases node?_settle present with old | ⟨-, first, begins, entered⟩
    · exact Or.inl old
    · by_cases nothing : first = []
      · subst nothing
        have start := tree.start_isDirectory directory
        rw [enter_nil (kept.directories _ start)] at entered
        exact Or.inl (Except.ok.inj entered ▸ start)
      · rw [← kept.start] at entered
        exact Or.inr (locate_ancestor parent fits begins nothing entered)
  · rw [settle, if_neg fits] at present
    exact Or.inl present

/-- A directory that the parent leads to already is settled as it is. -/
theorem settle_of_isDirectoryPath {parent : Path} (found : path.parent? = some parent)
    (parentInside : path.parent?.getD [] = Path.trunk directory.inside)
    (present : tree.isDirectoryPath parent = true) : ∃ place,
      tree.settle directory = (tree, some place) := by
  rw [found, Option.getD_some] at parentInside
  subst parentInside
  have nonempty : Path.trunk directory.inside ≠ [] := by
    intro empty
    rw [empty] at present
    cases present
  obtain ⟨fits, place, entered⟩ := (isDirectoryPath_iff nonempty).1 present
  have start := tree.start_isDirectory directory
  refine ⟨place, ?_⟩
  rw [settle, if_pos fits]
  apply grow_of_enter (areComponents_components _)
  rw [start_trunk_inside, ← enter_components start,
    Path.components_trunk (Path.separated_inside directory), Path.components_inside] at entered
  exact entered

/-- Without a parent there is nothing to settle. -/
theorem settle_of_empty (empty : Path.trunk directory.inside = []) :
    (tree.settle directory).1 = tree := by
  have nothing : directory.inside = [] := (Path.trunk_eq_nil_iff _).1 empty
  unfold settle
  split
  · rw [← Path.components_inside, nothing]
    rfl
  · rfl

/-- Settling the directory of a path spares all files. -/
theorem spares_settle (tree : Tree) (parent : path.parent?.getD [] = Path.trunk directory.inside) :
    tree.Spares (tree.settle directory).1 path := by
  constructor
  · exact fileAt?_settle tree directory
  · exact growsBy_settle tree parent
  · rintro (none | empty | ⟨found, same, present⟩)
    · rw [none] at parent
      exact settle_of_empty parent.symm
    · rw [empty] at parent
      exact settle_of_empty parent.symm
    · obtain ⟨place, settled⟩ := settle_of_isDirectoryPath same parent present
      rw [settled]

/-! ### Files that are stored -/

variable {name : Name}

/-- What is new after a deposit, besides the file, are directories of the ancestors of its path. -/
theorem growsBy_deposit (parent : path.parent?.getD [] = Path.trunk directory.inside)
    (tree : Tree) (name : Name) (content : Bytes) :
    tree.GrowsBy (tree.deposit directory name content) path.parents := by
  have keeps := keepsDirectories_deposit tree directory name content
  have grows := growsBy_settle tree parent
  refine ⟨grows.kept.trans keeps, ?_⟩
  intro place present
  rcases grows.added place ((isDirectory_deposit_iff _ _ _ _ _).1 present) with
    old | ⟨ancestor, mem, leads⟩
  · exact Or.inl old
  · exact Or.inr ⟨ancestor, mem, locate_mono keeps leads
      ((isDirectory_deposit_iff _ _ _ _ _).1 present)⟩

/-- A file that lands is stored. -/
theorem stores_deposit (entry : Path.IsEntryName name)
    (lands : (tree.landing? directory name).isSome = true) (content : Bytes) :
    tree.Stores (tree.deposit directory name content) (directory.join name) content := by
  have parent : (directory.join name).parent?.getD [] = Path.trunk directory.inside := by
    rw [Path.parent?_join entry, Option.getD_some]
  obtain ⟨_, landing⟩ := Option.isSome_iff_exists.1 lands
  obtain ⟨-, fits, -⟩ := landing?_eq_some_iff.1 landing
  obtain ⟨place, target⟩ := Option.isSome_iff_exists.1
    (show (tree.target? directory name).isSome = true by rwa [target?, Option.isSome_map])
  obtain ⟨above, entered, rfl⟩ := directoryAt_of_target target content
  rw [directoryAt_eq_enter] at entered
  have stored := fileAt?_deposit tree directory name content
  simp only [target, Option.some.injEq] at stored
  obtain ⟨located, read⟩ := readFile_of_target entry
    (by rw [settle_deposit]) (by rw [target?_deposit, target])
    ((stored (above ++ [name])).trans (if_pos rfl))
  constructor
  · refine ⟨above, name, ?_, enter_isDirectory entered, located, ?_⟩
    · have before := Path.trunk_inside_prefix_join entry directory
      exact locate_container parent (fits.of_prefix before) entered
    · intro place
      rw [stored]
      simp only [eq_comm]
  · exact read
  · exact growsBy_deposit parent tree name content

/-! ### Writing -/

/-- A path that has no name for a file at its end cannot be written to. -/
theorem createFile_of_unfit (unfit : (Path.isSpecial path.split.name || path.split.trailing) = true)
    (tree : Tree) (content : Bytes) : ∃ cause, tree.createFile path content = .error cause := by
  simp only [createFile, bind]
  cases path.check with
  | error cause => exact ⟨cause, rfl⟩
  | ok _ =>
      cases tree.directoryAt path path.split.directory with
      | error cause => exact ⟨cause, rfl⟩
      | ok place => exact ⟨.isDirectory, by simp only [Except.bind, if_pos unfit]⟩

/-- Writing to such a path fails, after the directories of its parent have been settled. -/
theorem writeFile_of_unfit (unfit : (Path.isSpecial path.split.name || path.split.trailing) = true)
    (parent : path.parent?.getD [] = Path.trunk directory.inside) (tree : Tree) (content : Bytes) :
    ∃ cause, tree.writeFile path content = ⟨(tree.settle directory).1, some cause⟩ := by
  obtain ⟨sameTree, -⟩ := createDirectories_inside tree directory
  unfold writeFile
  rw [parent]
  cases made : tree.createDirectories (Path.trunk directory.inside) with
  | mk prepared failure =>
      obtain rfl : prepared = (tree.settle directory).1 := by rw [← sameTree, made]
      cases failure with
      | some cause => exact ⟨cause, rfl⟩
      | none =>
          obtain ⟨cause, refused⟩ := createFile_of_unfit unfit (tree.settle directory).1 content
          exact ⟨cause, by simp only [refused]⟩

/-- A path without a name for a file is only good for the directories before it. -/
theorem writesAt_of_unfit (unfit : (Path.isSpecial path.split.name || path.split.trailing) = true)
    (tree : Tree) : tree.WritesAt path := by
  obtain ⟨directory, parent⟩ := path.exists_parent
  have fails := writeFile_of_unfit unfit parent
  constructor
  · intro content
    obtain ⟨cause, written⟩ := fails tree content
    rw [written]
    apply iff_of_false nofun
    rintro ⟨before, name, entry, rfl, -⟩
    rw [Path.split_join entry, entry.ordinary] at unfit
    cases unfit
  · intro content success
    obtain ⟨cause, written⟩ := fails tree content
    rw [written] at success
    cases success
  · intro content cause failed
    obtain ⟨cause, written⟩ := fails tree content
    rw [written]
    exact spares_settle tree parent
  · intro first second
    obtain ⟨cause, written⟩ := fails tree first
    obtain ⟨cause', written'⟩ := fails tree second
    obtain ⟨again, rewritten⟩ := fails (tree.settle directory).1 second
    rw [written, written', rewritten, settle_again]
    exact ⟨rfl, rfl⟩

/-- A name inside of a directory path is written to by depositing the file. -/
theorem writesAt_join (entry : Path.IsEntryName name) (tree : Tree) (directory : Path) :
    tree.WritesAt (directory.join name) := by
  have writes := fun tree => writeFile_join entry tree directory
  have parent : (directory.join name).parent?.getD [] = Path.trunk directory.inside := by
    rw [Path.parent?_join entry, Option.getD_some]
  constructor
  · intro content
    rw [(writes tree content).2]
    constructor
    · intro lands
      exact ⟨directory, name, entry, rfl, lands⟩
    · rintro ⟨directory', name', entry', same, lands⟩
      rw [← (writes tree content).2, same, (writeFile_join entry' tree directory' content).2]
      exact lands
  · intro content success
    rw [(writes tree content).1]
    exact stores_deposit entry ((writes tree content).2.1 success) content
  · intro content cause failed
    have blocked : tree.landing? directory name = none := by
      rw [← Option.not_isSome_iff_eq_none, ← (writes tree content).2, failed]
      exact nofun
    rw [(writes tree content).1, deposit, blocked]
    exact spares_settle tree parent
  · intro first second
    rw [(writes tree first).1]
    refine ⟨?_, ?_⟩
    · rw [(writes _ second).1, (writes tree second).1, deposit_deposit]
    · rw [Bool.eq_iff_iff, Option.isNone_iff_eq_none, Option.isNone_iff_eq_none,
        (writes _ second).2, (writes tree second).2, landing?_deposit]

/-- Writing a file stores it, or fails and touches no file; what is made besides are directories
of lexical ancestors.  This holds for every tree and path, and a second write to the path leaves
what it leaves without the first. -/
theorem writes_at_every_path (tree : Tree) (path : Path) : tree.WritesAt path := by
  rcases path.join_or_unfit with ⟨directory, name, entry, rfl⟩ | unfit
  · exact writesAt_join entry tree directory
  · exact writesAt_of_unfit unfit tree

/-- A write that fails again may do so for another cause: here it makes the first directory, and
only then the second attempt gets as far as the file that is in its way. -/
example :
    let tree : Tree := (Tree.root.writeFile (Utf8.ofString "f") []).tree
    let write := fun tree : Tree => tree.writeFile (Utf8.ofString "x/../f/y/z") []
    (write tree).failure = some .alreadyExists ∧
      (write (write tree).tree).failure = some .notDirectory := by decide

end Tree

end ChainLaunchers
