/-
Module: ChainLaunchers.Proofs.Tree.Deposit
Purpose: Writing a file under a name into the directory that a path stands for: when it
  succeeds, what it leaves, and that no such write decides whether another one succeeds.
Trusted boundary: none
Main exports:
  Tree.settle, Tree.landing?, Tree.deposit, Tree.writeFile_join, Tree.settle_deposit,
  Tree.landing?_deposit, Tree.deposit_deposit, Tree.fileAt?, Tree.fileAt?_deposit,
  Tree.readFile_of_target
-/
import ChainLaunchers.Proofs.Tree.Directories

namespace ChainLaunchers

namespace Path

theorem isAbsolute_join {name : Name} (entry : IsEntryName name) (directory : Path) :
    isAbsolute (directory.join name) = isAbsolute directory := by
  by_cases empty : directory = []
  · subst empty
    rw [join, if_neg (by simp [entry.not_isAbsolute]), if_pos (Or.inl rfl), List.nil_append,
      entry.not_isAbsolute]
    rfl
  · obtain ⟨rest, whole⟩ := prefix_join entry directory
    rw [← whole]
    exact isAbsolute_append empty

/-- The directories that are made for a joined path are those of the trunk before the name. -/
theorem parent?_join {name : Name} (entry : IsEntryName name) (directory : Path) :
    (directory.join name).parent? = some (trunk directory.inside) :=
  parent?_of_segments (segments_join entry directory) entry.not_isFiller (List.forall_mem_nil _)

/-- A joined path is cut before the name. -/
theorem split_join {name : Name} (entry : IsEntryName name) (directory : Path) :
    (directory.join name).split = ⟨directory.inside, name, false⟩ :=
  split_of_segments entry.ne_nil (segments_join entry directory)

/-- The directories that are made for a joined path come before the name in it. -/
theorem trunk_inside_prefix_join {name : Name} (entry : IsEntryName name) (directory : Path) :
    trunk directory.inside <+: directory.join name := by
  have begins := trunk_prefix directory.inside name
  rwa [← segments_join entry, joinWith_segments] at begins

theorem isAbsolute_trunk_inside (directory : Path) :
    isAbsolute (trunk directory.inside) = isAbsolute directory := by
  have entry : IsEntryName [97] := ⟨by decide, by decide⟩
  have whole := segments_join entry directory
  rw [isAbsolute_trunk entry.separated, ← whole, joinWith_segments, isAbsolute_join entry]

end Path

namespace Tree

/-! ### Settling a directory -/

/-- Makes the directories that a path asks for.  The result is the tree with them and the
directory that the path stands for, unless it cannot be had. -/
def settle (tree : Tree) (directory : Path) : Tree × Option Place :=
  if (Path.trunk directory.inside).Fits then
    tree.grow (tree.start directory) (Path.components directory.segments)
  else (tree, none)

theorem start_trunk_inside (tree : Tree) (directory : Path) :
    tree.start (Path.trunk directory.inside) = tree.start directory := by
  simp only [start, Path.isAbsolute_trunk_inside]

theorem start_join {name : Name} (entry : Path.IsEntryName name) (tree : Tree) (directory : Path) :
    tree.start (directory.join name) = tree.start directory := by
  simp only [start, Path.isAbsolute_join entry]

/-- Fillers at the end of a directory path do not change where a joined name is looked for. -/
theorem enter_inside (tree : Tree) (directory : Path) :
    tree.enter (tree.start directory) directory.inside =
      tree.enter (tree.start directory) directory.segments := by
  have start := tree.start_isDirectory directory
  rw [← enter_components start, Path.components_inside, enter_components start]

/-- Creating the directories in front of a joined name settles the directory. -/
theorem createDirectories_inside (tree : Tree) (directory : Path) :
    Attempt.Matches (tree.createDirectories (Path.trunk directory.inside))
      (tree.settle directory) := by
  unfold settle
  split
  · rename_i fits
    have made := createDirectories_trunk (Path.separated_inside directory) fits tree
    rwa [start_trunk_inside, Path.components_inside] at made
  · rename_i misfit
    obtain ⟨cause, refused⟩ := createDirectories_of_not_fits misfit tree
    rw [refused]
    exact ⟨rfl, by simp⟩

theorem keepsDirectories_settle (tree : Tree) (directory : Path) :
    KeepsDirectories tree (tree.settle directory).1 := by
  unfold settle
  split
  · exact keepsDirectories_grow (tree.start_isDirectory directory) _
  · exact KeepsDirectories.refl tree

/-- Nothing that is in the tree goes away or changes. -/
theorem node?_settle_of_some {tree : Tree} {place : Place} {node : Node}
    (present : tree.node? place = some node) (directory : Path) :
    (tree.settle directory).1.node? place = some node := by
  unfold settle
  split
  · exact node?_grow_of_some (tree.start_isDirectory directory) _ present
  · exact present

/-- What is new after settling is a directory that some of the first components lead to. -/
theorem node?_settle {tree : Tree} {directory : Path} {place : Place} {node : Node}
    (present : (tree.settle directory).1.node? place = some node) :
    tree.node? place = some node ∨
      node = .directory ∧ ∃ first, first <+: Path.components directory.segments ∧
        (tree.settle directory).1.enter (tree.start directory) first = .ok place := by
  unfold settle at present ⊢
  split
  · rename_i fits
    rw [if_pos fits] at present
    exact node?_grow (tree.start_isDirectory directory) (areComponents_components _) present
  · rename_i misfit
    rw [if_neg misfit] at present
    exact Or.inl present

/-- The settled directory is the one that the path leads to. -/
theorem enter_of_settle {tree ready : Tree} {directory : Path} {place : Place}
    (settled : tree.settle directory = (ready, some place)) :
    ready.enter (ready.start directory) directory.segments = .ok place := by
  have kept := keepsDirectories_settle tree directory
  rw [settled] at kept
  unfold settle at settled
  split at settled
  · have entered := enter_of_grow (tree.start_isDirectory directory)
      (areComponents_components _) settled
    rw [← kept.start, enter_components (ready.start_isDirectory directory)] at entered
    exact entered
  · simp at settled

/-- A directory that is settled stays settled as long as directories are kept. -/
theorem settle_mono {tree ready later : Tree} {directory : Path} {place : Place}
    (settled : tree.settle directory = (ready, some place)) (keeps : KeepsDirectories ready later) :
    later.settle directory = (later, some place) := by
  have kept := keepsDirectories_settle tree directory
  rw [settled] at kept
  unfold settle at settled ⊢
  split at settled
  · rename_i fits
    rw [if_pos fits, keeps.start, kept.start]
    exact grow_mono (tree.start_isDirectory directory) (areComponents_components _) settled keeps
  · simp at settled

/-- Settling twice is settling once, also where it fails. -/
theorem settle_again (tree : Tree) (directory : Path) :
    (tree.settle directory).1.settle directory = tree.settle directory := by
  cases settled : tree.settle directory with
  | mk ready last =>
      cases last with
      | some place => exact settle_mono settled (KeepsDirectories.refl ready)
      | none =>
          have kept := keepsDirectories_settle tree directory
          rw [settled] at kept
          unfold settle at settled ⊢
          split at settled
          · rename_i fits
            rw [if_pos fits, kept.start]
            exact grow_again (tree.start_isDirectory directory) settled
          · rename_i misfit
            obtain rfl : tree = ready := by simpa using settled
            rw [if_neg misfit]

/-! ### Writing under a name -/

/-- Whether a settled directory takes a file of this name: the path and the name are not too
long, and no directory has the name. -/
def Takes (ready : Tree) (directory : Path) (place : Place) (name : Name) : Prop :=
  (directory.join name).Fits ∧ name.length ≤ Name.limit ∧
    ready.node? (place ++ [name]) ≠ some .directory

instance (ready : Tree) (directory : Path) (place : Place) (name : Name) :
    Decidable (ready.Takes directory place name) := inferInstanceAs (Decidable (_ ∧ _ ∧ _))

/-- The directory that a file of this name is written into, if it can be written. -/
def landing? (tree : Tree) (directory : Path) (name : Name) : Option Place :=
  match tree.settle directory with
  | (ready, some place) => if ready.Takes directory place name then some place else none
  | (_, none) => none

/-- The place of a file that is written under this name. -/
def target? (tree : Tree) (directory : Path) (name : Name) : Option Place :=
  (tree.landing? directory name).map fun place => place ++ [name]

/-- The tree after a file has been written under a name, or after the attempt. -/
def deposit (tree : Tree) (directory : Path) (name : Name) (content : Bytes) : Tree :=
  match tree.landing? directory name with
  | some place => (tree.settle directory).1.put place name (.file content)
  | none => (tree.settle directory).1

theorem landing?_eq_some_iff {tree : Tree} {directory : Path} {name : Name} {place : Place} :
    tree.landing? directory name = some place ↔
      (tree.settle directory).2 = some place ∧
        (tree.settle directory).1.Takes directory place name := by
  unfold landing?
  cases tree.settle directory with
  | mk ready last =>
      cases last with
      | none => simp
      | some found =>
          by_cases takes : ready.Takes directory found name
          · simp only [takes, if_true, Option.some.injEq]
            constructor
            · rintro rfl
              exact ⟨rfl, takes⟩
            · exact And.left
          · simp only [takes, if_false, Option.some.injEq, reduceCtorEq, false_iff, not_and]
            rintro rfl
            exact takes

theorem landing?_eq_none_of_settle {tree ready : Tree} {directory : Path}
    (settled : tree.settle directory = (ready, none)) (name : Name) :
    tree.landing? directory name = none := by
  simp only [landing?, settled]

theorem landing?_of_settle {tree ready : Tree} {directory : Path} {place : Place}
    (settled : tree.settle directory = (ready, some place)) (name : Name) :
    tree.landing? directory name =
      if ready.Takes directory place name then some place else none := by
  simp only [landing?, settled]

/-- A joined path names an entry of the directory that the path before the name denotes. -/
theorem directoryAt_join {name : Name} (entry : Path.IsEntryName name) (tree : Tree)
    (directory : Path) :
    tree.directoryAt (directory.join name) (directory.join name).split.directory =
      tree.directoryAt directory directory.segments := by
  rw [Path.split_join entry, directoryAt_eq_enter, start_join entry, enter_inside,
    directoryAt_eq_enter]

/-- Creating a file in a directory that is there. -/
theorem createFile_join {name : Name} (entry : Path.IsEntryName name) {ready : Tree}
    {directory : Path} {place : Place}
    (entered : ready.enter (ready.start directory) directory.segments = .ok place)
    (content : Bytes) :
    if ready.Takes directory place name then
      ready.createFile (directory.join name) content = .ok (ready.put place name (.file content))
    else ∃ cause, ready.createFile (directory.join name) content = .error cause := by
  have segments := Path.segments_join entry directory
  have nonempty := Path.ne_nil_of_segments segments entry.not_isFiller
  have split := Path.split_join entry directory
  have above : ready.directoryAt (directory.join name) directory.inside = .ok place := by
    have denoted := directoryAt_join entry ready directory
    rw [split] at denoted
    rw [denoted, directoryAt_eq_enter, entered]
  by_cases fits : (directory.join name).Fits
  · have created : ready.createFile (directory.join name) content =
        if Name.limit < name.length then .error .nameTooLong
        else if ready.node? (place ++ [name]) = some .directory then .error .isDirectory
        else .ok (ready.put place name (.file content)) := by
      simp only [createFile, Path.check_of_fits nonempty fits, split, above, entry.ordinary, bind,
        Except.bind, Bool.or_false, Bool.false_eq_true, if_false]
    rw [created]
    by_cases long : Name.limit < name.length
    · rw [if_neg fun takes => Nat.not_lt.2 takes.2.1 long, if_pos long]
      exact ⟨_, rfl⟩
    · rw [if_neg long]
      by_cases taken : ready.node? (place ++ [name]) = some .directory
      · rw [if_neg fun takes => takes.2.2 taken, if_pos taken]
        exact ⟨_, rfl⟩
      · rw [if_pos ⟨fits, Nat.not_lt.1 long, taken⟩, if_neg taken]
  · obtain ⟨cause, refused, _⟩ := Path.check_of_not_fits fits
    rw [if_neg fun takes => fits takes.1]
    exact ⟨cause, by simp [createFile, refused, bind, Except.bind]⟩

/-- A write under a name succeeds exactly if the file has a landing, and leaves the deposit. -/
theorem writeFile_join {name : Name} (entry : Path.IsEntryName name) (tree : Tree)
    (directory : Path) (content : Bytes) :
    (tree.writeFile (directory.join name) content).tree = tree.deposit directory name content ∧
      ((tree.writeFile (directory.join name) content).failure = none ↔
        (tree.landing? directory name).isSome = true) := by
  obtain ⟨sameTree, sameFailure⟩ := createDirectories_inside tree directory
  unfold writeFile
  rw [Path.parent?_join entry, Option.getD_some]
  cases made : tree.createDirectories (Path.trunk directory.inside) with
  | mk prepared failure =>
      cases settled : tree.settle directory with
      | mk ready last =>
          simp only [made, settled] at sameTree sameFailure
          subst sameTree
          cases last with
          | none =>
              have unplaced := landing?_eq_none_of_settle settled name
              cases failure with
              | none => simp at sameFailure
              | some cause => simp [deposit, unplaced, settled]
          | some place =>
              obtain rfl : failure = none := sameFailure.2 rfl
              have landing := landing?_of_settle settled name
              have created := createFile_join entry (enter_of_settle settled) content
              by_cases takes : prepared.Takes directory place name
              · rw [if_pos takes] at created landing
                simp [created, deposit, landing, settled]
              · rw [if_neg takes] at created landing
                obtain ⟨cause, refused⟩ := created
                simp [refused, deposit, landing, settled]

/-! ### Writes do not decide about each other -/

/-- Files of different names are written to different places. -/
theorem target?_injective {tree : Tree} {directory : Path} {first second : Name} {place : Place}
    (hfirst : tree.target? directory first = some place)
    (hsecond : tree.target? directory second = some place) : first = second := by
  obtain ⟨above, -, rfl⟩ := Option.map_eq_some_iff.1 hfirst
  obtain ⟨above', -, same⟩ := Option.map_eq_some_iff.1 hsecond
  obtain ⟨-, names⟩ := List.append_inj' same rfl
  exact (List.singleton_inj.1 names).symm

/-- A landing is a directory of the settled tree. -/
theorem isDirectory_of_landing {tree : Tree} {directory : Path} {name : Name} {place : Place}
    (landing : tree.landing? directory name = some place) :
    (tree.settle directory).1.node? place = some .directory := by
  obtain ⟨settled, -⟩ := landing?_eq_some_iff.1 landing
  exact enter_isDirectory (enter_of_settle (Prod.ext rfl settled))

/-- What stands where after a deposit: the file at its own place, and the settled tree
elsewhere. -/
theorem node?_deposit (tree : Tree) (directory : Path) (name : Name) (content : Bytes)
    (other : Place) :
    (tree.deposit directory name content).node? other =
      if tree.target? directory name = some other then some (.file content)
      else (tree.settle directory).1.node? other := by
  unfold deposit target?
  cases landing : tree.landing? directory name with
  | none => simp
  | some place =>
      obtain ⟨-, -, -, free⟩ := landing?_eq_some_iff.1 landing
      simp only [node?_put (isDirectory_of_landing landing) free, Option.map_some,
        Option.some.injEq, eq_comm]

/-- A deposit adds no directory to the settled tree and takes none away. -/
theorem isDirectory_deposit_iff (tree : Tree) (directory : Path) (name : Name) (content : Bytes)
    (other : Place) :
    (tree.deposit directory name content).node? other = some .directory ↔
      (tree.settle directory).1.node? other = some .directory := by
  rw [node?_deposit]
  split
  · rename_i own
    obtain ⟨place, landing, rfl⟩ := Option.map_eq_some_iff.1 own
    obtain ⟨-, -, -, free⟩ := landing?_eq_some_iff.1 landing
    simp [free]
  · exact Iff.rfl

@[simp] theorem workingPlace_deposit (tree : Tree) (directory : Path) (name : Name)
    (content : Bytes) :
    (tree.deposit directory name content).workingPlace = tree.workingPlace := by
  have kept := (keepsDirectories_settle tree directory).working
  unfold deposit
  split
  · rw [workingPlace_put, kept]
  · exact kept

theorem keepsDirectories_deposit (tree : Tree) (directory : Path) (name : Name) (content : Bytes) :
    KeepsDirectories (tree.settle directory).1 (tree.deposit directory name content) :=
  ⟨fun other present => (isDirectory_deposit_iff tree directory name content other).2 present, by
    rw [workingPlace_deposit, (keepsDirectories_settle tree directory).working]⟩

/-- A file is written into the directory that the path denotes afterwards. -/
theorem directoryAt_of_target {tree : Tree} {directory : Path} {name : Name} {place : Place}
    (target : tree.target? directory name = some place) (content : Bytes) :
    ∃ above, (tree.deposit directory name content).directoryAt directory directory.segments =
      .ok above ∧ place = above ++ [name] := by
  obtain ⟨above, landing, rfl⟩ := Option.map_eq_some_iff.1 target
  obtain ⟨reached, -⟩ := landing?_eq_some_iff.1 landing
  refine ⟨above, ?_, rfl⟩
  apply directoryAt_mono (keepsDirectories_deposit tree directory name content)
  rw [directoryAt_eq_enter]
  exact enter_of_settle (Prod.ext rfl reached)

/-- A directory that is new after a deposit is one that a beginning of the path leads to. -/
theorem isDirectory_deposit {tree : Tree} {directory : Path} {name : Name} {content : Bytes}
    {place : Place}
    (present : (tree.deposit directory name content).node? place = some .directory) :
    tree.node? place = some .directory ∨
      ∃ first, first <+: directory.segments ∧
        (tree.deposit directory name content).directoryAt directory first = .ok place := by
  rcases node?_settle ((isDirectory_deposit_iff tree directory name content place).1 present) with
    old | ⟨-, components, begins, entered⟩
  · exact Or.inl old
  · -- The components of a beginning are a beginning of the components, and enter the same.
    obtain ⟨first, before, rfl⟩ := List.prefix_filter_iff.1 begins
    have kept := keepsDirectories_settle tree directory
    refine Or.inr ⟨first, before, directoryAt_mono
      (keepsDirectories_deposit tree directory name content) ?_⟩
    rw [directoryAt_eq_enter, kept.start, ← enter_components
      (kept.directories _ (tree.start_isDirectory directory))]
    exact entered

/-- After a deposit the directory is settled, and it is the same directory; where it could not
be had, it still cannot. -/
theorem settle_deposit (tree : Tree) (directory : Path) (name : Name) (content : Bytes) :
    (tree.deposit directory name content).settle directory =
      (tree.deposit directory name content, (tree.settle directory).2) := by
  cases settled : tree.settle directory with
  | mk ready last =>
      cases last with
      | none =>
          have unchanged : tree.deposit directory name content = ready := by
            simp only [deposit, landing?_eq_none_of_settle settled name, settled]
          have again := settle_again tree directory
          rw [settled] at again
          rw [unchanged, again]
      | some place =>
          have kept := keepsDirectories_deposit tree directory name content
          rw [settled] at kept
          exact settle_mono settled kept

/-- A write under one name never changes whether a write under this or another name in the same
directory succeeds, nor where it goes. -/
theorem landing?_deposit (tree : Tree) (directory : Path) (name : Name) (content : Bytes)
    (other : Name) :
    (tree.deposit directory name content).landing? directory other =
      tree.landing? directory other := by
  have after := settle_deposit tree directory name content
  cases settled : tree.settle directory with
  | mk ready last =>
      rw [settled] at after
      cases last with
      | none => rw [landing?_eq_none_of_settle after, landing?_eq_none_of_settle settled]
      | some place =>
          have same : (tree.deposit directory name content).Takes directory place other ↔
              ready.Takes directory place other := by
            have directories :=
              isDirectory_deposit_iff tree directory name content (place ++ [other])
            rw [settled] at directories
            simp only [Takes, ne_eq, directories]
          rw [landing?_of_settle after, landing?_of_settle settled]
          simp only [same]

theorem target?_deposit (tree : Tree) (directory : Path) (name : Name) (content : Bytes)
    (other : Name) :
    (tree.deposit directory name content).target? directory other =
      tree.target? directory other := by
  rw [target?, landing?_deposit, target?]

/-- A second deposit under a name takes the place of the first one. -/
theorem deposit_deposit (tree : Tree) (directory : Path) (name : Name) (first second : Bytes) :
    (tree.deposit directory name first).deposit directory name second =
      tree.deposit directory name second := by
  apply ext
  · intro place
    rw [node?_deposit, target?_deposit, settle_deposit, node?_deposit, node?_deposit]
    split <;> rfl
  · rw [workingPlace_deposit, workingPlace_deposit, workingPlace_deposit]

/-! ### Files -/

/-- The content of the file at a place, if there is one. -/
def fileAt? (tree : Tree) (place : Place) : Option Bytes :=
  match tree.node? place with
  | some (.file content) => some content
  | _ => none

theorem fileAt?_eq_some_iff {tree : Tree} {place : Place} {content : Bytes} :
    tree.fileAt? place = some content ↔ tree.node? place = some (.file content) := by
  unfold fileAt?
  split
  · rename_i found
    simp [found]
  · rename_i other
    simp only [reduceCtorEq, false_iff]
    exact other content

/-- A tree is told by its files, its directories and where the working directory is. -/
theorem ext_of_fileAt? {left right : Tree}
    (files : ∀ place, left.fileAt? place = right.fileAt? place)
    (directories : ∀ place, left.node? place = some .directory ↔
      right.node? place = some .directory)
    (working : left.workingPlace = right.workingPlace) : left = right := by
  refine ext ?_ working
  intro place
  apply Option.ext
  intro node
  cases node with
  | directory => exact directories place
  | file content => rw [← fileAt?_eq_some_iff, ← fileAt?_eq_some_iff, files place]

/-- Settling touches no file. -/
theorem fileAt?_settle (tree : Tree) (directory : Path) (place : Place) :
    (tree.settle directory).1.fileAt? place = tree.fileAt? place := by
  apply Option.ext
  intro content
  rw [fileAt?_eq_some_iff, fileAt?_eq_some_iff]
  constructor
  · intro present
    rcases node?_settle present with old | ⟨made, -⟩
    · exact old
    · cases made
  · intro present
    exact node?_settle_of_some present directory

/-- A deposit touches no file but its own. -/
theorem fileAt?_deposit (tree : Tree) (directory : Path) (name : Name) (content : Bytes)
    (other : Place) :
    (tree.deposit directory name content).fileAt? other =
      if tree.target? directory name = some other then some content else tree.fileAt? other := by
  rw [← fileAt?_settle tree directory other]
  unfold fileAt?
  rw [node?_deposit]
  by_cases own : tree.target? directory name = some other
  · simp only [if_pos own]
  · simp only [if_neg own]

/-- A joined path leads to an entry of the directory that the path before the name leads to. -/
theorem locate_join {name : Name} (entry : Path.IsEntryName name) {tree : Tree}
    {directory : Path} {other : Place} :
    tree.locate (directory.join name) = .ok other ↔
      (directory.join name).Fits ∧ name.length ≤ Name.limit ∧
        ∃ place, tree.enter (tree.start directory) directory.segments = .ok place ∧
          place ++ [name] = other ∧ (tree.node? other).isSome = true := by
  have segments := Path.segments_join entry directory
  have nonempty := Path.ne_nil_of_segments segments entry.not_isFiller
  by_cases fits : (directory.join name).Fits
  · have located : tree.locate (directory.join name) =
        (tree.enter (tree.start directory) directory.segments).bind fun place =>
          tree.step place name := by
      rw [← enter_inside, ← walk_concat, ← segments, ← start_join entry]
      simp only [locate, Path.check_of_fits nonempty fits, bind, Except.bind]
    rw [located]
    cases entered : tree.enter (tree.start directory) directory.segments with
    | error cause => simp [Except.bind]
    | ok place =>
        simp only [Except.bind, step_component (enter_isDirectory entered) entry.not_isFiller
          entry.ne_above, fits, true_and, Except.ok.injEq, exists_eq_left']
        by_cases long : Name.limit < name.length
        · simp [long, Nat.not_le.2 long]
        · by_cases present : (tree.node? (place ++ [name])).isSome = true
          · simp only [long, if_false, present, if_true, Nat.not_lt.1 long, true_and,
              Except.ok.injEq, iff_self_and]
            rintro rfl
            exact present
          · simp only [long, if_false, present, Bool.false_eq_true, reduceCtorEq, false_iff]
            rintro ⟨-, rfl, found⟩
            exact present found
  · obtain ⟨cause, refused, _⟩ := Path.check_of_not_fits fits
    simp [locate, refused, bind, Except.bind, fits]

/-- A file is read where its path leads. -/
theorem readFile_eq_ok_iff {tree : Tree} {path : Path} {content : Bytes} :
    tree.readFile path = .ok content ↔
      ∃ place, tree.locate path = .ok place ∧ tree.fileAt? place = some content := by
  unfold readFile
  cases tree.locate path with
  | error cause => simp [bind, Except.bind]
  | ok place =>
      simp only [bind, Except.bind, Except.ok.injEq, exists_eq_left', fileAt?_eq_some_iff]
      split
      · rename_i found
        simp [found]
      · rename_i found
        simp [found]
      · rename_i found
        simp [found]

/-! ### Files under a name -/

/-- Where the directory is settled, the path of a file that stands at its target leads to it. -/
theorem readFile_of_target {name : Name} (entry : Path.IsEntryName name) {tree : Tree}
    {directory : Path} (settled : (tree.settle directory).1 = tree) {other : Place}
    (target : tree.target? directory name = some other) {content : Bytes}
    (present : tree.fileAt? other = some content) :
    tree.locate (directory.join name) = .ok other ∧
      tree.readFile (directory.join name) = .ok content := by
  obtain ⟨place, landing, rfl⟩ := Option.map_eq_some_iff.1 target
  obtain ⟨reached, fits, short, -⟩ := landing?_eq_some_iff.1 landing
  have entered := enter_of_settle (Prod.ext settled reached)
  have located : tree.locate (directory.join name) = .ok (place ++ [name]) :=
    (locate_join entry).2 ⟨fits, short, place, entered, rfl, by
      rw [fileAt?_eq_some_iff.1 present, Option.isSome_some]⟩
  exact ⟨located, readFile_eq_ok_iff.2 ⟨_, located, present⟩⟩

/-- A name under which nothing can be written has no file. -/
theorem readFile_of_landing?_eq_none {name : Name} (entry : Path.IsEntryName name) {tree : Tree}
    {directory : Path} (blocked : tree.landing? directory name = none) (content : Bytes) :
    tree.readFile (directory.join name) ≠ .ok content := by
  intro read
  obtain ⟨other, located, present⟩ := readFile_eq_ok_iff.1 read
  obtain ⟨fits, short, place, entered, rfl, -⟩ := (locate_join entry).1 located
  -- A file under the name shows that its directory is there, and that the name is free for one.
  have settled : tree.settle directory = (tree, some place) := by
    rw [settle, if_pos (fits.of_prefix (Path.trunk_inside_prefix_join entry directory))]
    refine grow_of_enter (areComponents_components _) ?_
    rw [enter_components (tree.start_isDirectory directory), entered]
  have takes : tree.Takes directory place name :=
    ⟨fits, short, by simp [fileAt?_eq_some_iff.1 present]⟩
  rw [landing?_of_settle settled, if_pos takes] at blocked
  cases blocked

end Tree

end ChainLaunchers
