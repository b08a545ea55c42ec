/-
Module: ChainLaunchers.Proofs.Tree.Directories
Purpose: Creating the directories of a path is growing the tree along its components.
Trusted boundary: none
Main exports:
  Path.Fits, Tree.ensureDirectory, Tree.Attempt.Matches, Tree.createDirectories_trunk,
  Tree.createDirectories_of_not_fits
-/
import ChainLaunchers.Proofs.Path.Trunk
import ChainLaunchers.Proofs.Tree.Growth

namespace ChainLaunchers

namespace Path

/-! ### Paths that can be looked up -/

/-- A path without a null byte that is not too long. -/
def Fits (path : Path) : Prop := 0 ∉ path ∧ path.length < limit

instance (path : Path) : Decidable path.Fits := inferInstanceAs (Decidable (_ ∧ _))

theorem check_of_fits {path : Path} (nonempty : path ≠ []) (fits : path.Fits) :
    path.check = .ok () := by
  rw [check, if_neg fits.1, if_neg nonempty, if_neg (Nat.not_le.2 fits.2)]

/-- A path that does not fit is refused, and not because of something that is missing. -/
theorem check_of_not_fits {path : Path} (misfit : ¬path.Fits) :
    ∃ cause, path.check = .error cause ∧ cause ≠ .notFound := by
  by_cases null : 0 ∈ path
  · exact ⟨.nullInPath, by rw [check, if_pos null], by simp⟩
  · have long : limit ≤ path.length := by
      refine Nat.not_lt.1 fun short => misfit ⟨null, short⟩
    have nonempty : path ≠ [] := by
      rintro rfl
      exact absurd long (by decide)
    exact ⟨.nameTooLong, by rw [check, if_neg null, if_neg nonempty, if_pos long], by simp⟩

theorem Fits.of_prefix {path whole : Path} (fits : whole.Fits) (before : path <+: whole) :
    path.Fits :=
  ⟨fun null => fits.1 (before.subset null), Nat.lt_of_le_of_lt before.length_le fits.2⟩

theorem ne_nil_of_segments {path : Path} {before : List Name} {name : Name}
    (segments : path.segments = before ++ [name]) (ordinary : isFiller name = false) :
    path ≠ [] := by
  rintro rfl
  have short : [] ++ [[]] = before ++ [name] := segments
  obtain ⟨-, last⟩ := List.append_inj' short rfl
  obtain rfl : [] = name := by simpa using last
  exact absurd ordinary (by decide)

/-- How a path is cut before its last segment. -/
theorem split_of_segments {path : Path} {before : List Name} {name : Name} (nonempty : name ≠ [])
    (segments : path.segments = before ++ [name]) : path.split = ⟨before, name, false⟩ := by
  have notTrailing : path.getLast? ≠ some separator := by
    intro trailing
    obtain ⟨stem, rfl⟩ := List.getLast?_eq_some_iff.1 trailing
    rw [segments_append_separator] at segments
    obtain ⟨-, last⟩ := List.append_inj' segments rfl
    exact nonempty (by simpa [eq_comm] using last)
  simp [split, segments, nonempty, notTrailing]

end Path

namespace Tree

/-- Whether a path leads to a directory, told by entering it. -/
theorem isDirectoryPath_iff {tree : Tree} {path : Path} (nonempty : path ≠ []) :
    tree.isDirectoryPath path = true ↔
      path.Fits ∧ ∃ place, tree.enter (tree.start path) path.segments = .ok place := by
  by_cases fits : path.Fits
  · simp only [isDirectoryPath, locate, Path.check_of_fits nonempty fits, enter, bind, Except.bind,
      isDirectory]
    cases walked : tree.walk (tree.start path) path.segments with
    | error cause => simp
    | ok place =>
        by_cases directory : tree.node? place = some .directory
        · simp [directory, fits]
        · simp only [directory, decide_false, Bool.false_eq_true, fits, true_and, false_iff]
          simp
  · obtain ⟨cause, refused, _⟩ := Path.check_of_not_fits fits
    simp [isDirectoryPath, locate, refused, bind, Except.bind, fits]

/-! ### One directory -/

/-- Makes a directory, or is content with the one that is there. -/
def ensureDirectory (tree : Tree) (path : Path) : Attempt :=
  match tree.createDirectory path with
  | .ok made => ⟨made, none⟩
  | .error cause => if tree.isDirectoryPath path then ⟨tree, none⟩ else ⟨tree, some cause⟩

/-- Unless something is missing on the way, the first path alone decides. -/
theorem createChain_cons_of_ne {tree : Tree} {path : Path}
    (other : tree.createDirectory path ≠ .error .notFound) (ancestors : List Path) :
    tree.createChain (path :: ancestors) = tree.ensureDirectory path := by
  unfold createChain ensureDirectory
  split
  · rename_i made created
    simp only [created]
  · rename_i missing
    exact absurd missing other
  · rename_i cause _ failed
    simp only [failed]

/-- If something is missing, the ancestors are made first. -/
theorem createChain_cons_of_missing {tree : Tree} {path : Path}
    (missing : tree.createDirectory path = .error .notFound) (ancestors : List Path) :
    tree.createChain (path :: ancestors) =
      match tree.createChain ancestors with
      | ⟨partly, some cause⟩ => ⟨partly, some cause⟩
      | ⟨prepared, none⟩ => prepared.ensureDirectory path := by
  rw [createChain]
  simp only [missing]
  rfl

/-- An attempt ends with the grown tree, and fails exactly if growing has stopped. -/
structure Attempt.Matches (attempt : Attempt) (grown : Tree × Option Place) : Prop where
  tree : attempt.tree = grown.1
  failure : attempt.failure = none ↔ grown.2.isSome = true

section

variable {before : List Name} {name : Name}

/-- Creating a directory whose name comes after other segments. -/
theorem createDirectory_of_segments (tree : Tree) {path : Path}
    (segments : path.segments = before ++ [name]) (fits : path.Fits)
    (ordinary : Path.isFiller name = false) :
    tree.createDirectory path =
      (tree.enter (tree.start path) before).bind fun place =>
        if name = Path.above then .error .alreadyExists
        else if Name.limit < name.length then .error .nameTooLong
        else if (tree.node? (place ++ [name])).isSome then .error .alreadyExists
        else .ok (tree.put place name .directory) := by
  have named : name ≠ [] := by
    rintro rfl
    exact absurd ordinary (by decide)
  have nonempty := Path.ne_nil_of_segments segments ordinary
  have special : (Path.isSpecial name = true) ↔ name = Path.above := by
    simp only [Path.isFiller, Bool.or_eq_false_iff] at ordinary
    simp [Path.isSpecial, ordinary.1, ordinary.2]
  simp only [createDirectory, Path.check_of_fits nonempty fits,
    Path.split_of_segments named segments, directoryAt_eq_enter, special]
  rfl

/-- In an existing directory, one more directory is ensured as the tree grows by its name. -/
theorem ensureDirectory_matches {tree : Tree} {path : Path} {place : Place}
    (segments : path.segments = before ++ [name]) (fits : path.Fits)
    (ordinary : Path.isFiller name = false)
    (entered : tree.enter (tree.start path) before = .ok place) :
    Attempt.Matches (tree.ensureDirectory path) (tree.grow place [name]) := by
  have directory := enter_isDirectory entered
  have created := createDirectory_of_segments tree segments fits ordinary
  have nonempty := Path.ne_nil_of_segments segments ordinary
  -- What is there already counts exactly if it can be entered.
  have there : tree.isDirectoryPath path = true ↔ ∃ last, tree.enter place [name] = .ok last := by
    rw [isDirectoryPath_iff nonempty, segments, enter_append, entered]
    simp [fits, Except.bind]
  rw [entered] at created
  simp only [Except.bind] at created
  by_cases up : name = Path.above
  · subst up
    rw [if_pos rfl] at created
    have present := there.2 ⟨_, enter_cons_above directory [] |>.trans
      (enter_nil (dropLast_isDirectory directory))⟩
    constructor <;> simp [ensureDirectory, created, present, grow]
  · rw [if_neg up] at created
    have stepped : tree.enter place [name] = (tree.step place name).bind (tree.enter · []) :=
      enter_cons tree place name []
    rw [step_component directory ordinary up] at stepped
    by_cases long : Name.limit < name.length
    · rw [if_pos long] at created stepped
      have absent : ¬tree.isDirectoryPath path = true := by simp [there, stepped, Except.bind]
      constructor <;> simp [ensureDirectory, created, absent, grow, up, long]
    · rw [if_neg long] at created stepped
      cases found : tree.node? (place ++ [name]) with
      | none =>
          simp only [found, Option.isSome_none, Bool.false_eq_true, if_false] at created
          constructor <;> simp [ensureDirectory, created, grow, up, long, found]
      | some node =>
          simp only [found, Option.isSome_some, if_true] at created stepped
          cases node with
          | directory =>
              have present := there.2 ⟨_, stepped.trans (enter_nil found)⟩
              constructor <;> simp [ensureDirectory, created, present, grow, up, long, found]
          | file content =>
              have absent : ¬tree.isDirectoryPath path = true := by
                simp [there, stepped, Except.bind, enter_of_not_directory, found]
              constructor <;> simp [ensureDirectory, created, absent, grow, up, long, found]

end

/-! ### All directories of a path -/

theorem Attempt.matches_nil (tree : Tree) (place : Place) :
    Attempt.Matches (⟨tree, none⟩ : Attempt) (tree.grow place []) :=
  ⟨rfl, by simp [grow]⟩

/-- The trunk starts where the path does that goes on after it. -/
theorem start_trunk_concat {before : List Name} {name : Name}
    (separated : Path.Separated (before ++ [name])) (ordinary : Path.isFiller name = false)
    (tree : Tree) :
    tree.start (Path.trunk (before ++ [name])) = tree.start (Path.trunk before) := by
  have unmixed : Path.separator ∉ name := separated name (by simp)
  simp only [start, Path.trunk_concat ordinary, Path.isAbsolute_trunk unmixed before]

/-- A path of fillers alone leads to a directory that is there already. -/
theorem createChain_fillers {path : Path} {name : Name} {trailing : Bool} (nonempty : path ≠ [])
    (fits : path.Fits) (cut : path.split = ⟨[], name, trailing⟩)
    (special : Path.isSpecial name = true) (fillers : Path.components path.segments = [])
    (tree : Tree) : tree.createChain [path] = ⟨tree, none⟩ := by
  have directory := tree.start_isDirectory path
  have created : tree.createDirectory path = .error .alreadyExists := by
    simp only [createDirectory, Path.check_of_fits nonempty fits, cut, directoryAt_eq_enter,
      enter_nil directory, special, bind, Except.bind, if_true]
  have present : tree.isDirectoryPath path = true := by
    rw [isDirectoryPath_iff nonempty]
    refine ⟨fits, tree.start path, ?_⟩
    rw [← enter_components directory, fillers, enter_nil directory]
  rw [createChain_cons_of_ne (by simp [created])]
  simp [ensureDirectory, created, present]

/-- The root and the working directory are there already. -/
theorem createDirectories_filler {filler : Name} (filling : Path.isFiller filler = true)
    (tree : Tree) : tree.createDirectories (Path.trunk [filler]) = ⟨tree, none⟩ := by
  rcases Path.trunk_filler filling with root | working
  · rw [root]
    exact createChain_fillers (by decide) (by decide) rfl (by decide) (by decide) tree
  · rw [working]
    exact createChain_fillers (by decide) (by decide) rfl (by decide) (by decide) tree

section

variable {before : List Name} {name : Name} {tree : Tree}
  (separated : Path.Separated (before ++ [name])) (ordinary : Path.isFiller name = false)
  (fits : (Path.trunk (before ++ [name])).Fits)

include separated ordinary fits

/-- A trunk is entered by way of the components before its last one. -/
theorem createDirectory_trunk_concat :
    tree.createDirectory (Path.trunk (before ++ [name])) =
      (tree.enter (tree.start (Path.trunk before)) (Path.components before)).bind fun place =>
        if name = Path.above then .error .alreadyExists
        else if Name.limit < name.length then .error .nameTooLong
        else if (tree.node? (place ++ [name])).isSome then .error .alreadyExists
        else .ok (tree.put place name .directory) := by
  have segments := Path.segments_trunk_concat separated ordinary
  have directory := tree.start_isDirectory (Path.trunk before)
  rw [createDirectory_of_segments tree segments fits ordinary,
    start_trunk_concat separated ordinary, enter_components directory]

/-- Where the directories above can be entered, one more is ensured in the last of them. -/
theorem ensureDirectory_trunk_concat {place : Place}
    (entered : tree.enter (tree.start (Path.trunk before)) (Path.components before) = .ok place) :
    Attempt.Matches (tree.ensureDirectory (Path.trunk (before ++ [name])))
      (tree.grow place [name]) := by
  apply ensureDirectory_matches (Path.segments_trunk_concat separated ordinary) fits ordinary
  rw [start_trunk_concat separated ordinary,
    ← enter_components (tree.start_isDirectory (Path.trunk before)), entered]

/-- All directories above are there: the whole path alone decides. -/
theorem createChain_of_enter {place : Place}
    (entered : tree.enter (tree.start (Path.trunk before)) (Path.components before) = .ok place)
    (ancestors : List Path) :
    Attempt.Matches (tree.createChain (Path.trunk (before ++ [name]) :: ancestors))
      (tree.grow place [name]) := by
  have other : tree.createDirectory (Path.trunk (before ++ [name])) ≠ .error .notFound := by
    rw [createDirectory_trunk_concat separated ordinary fits, entered]
    simp only [Except.bind]
    split
    · simp
    · split
      · simp
      · split <;> simp
  rw [createChain_cons_of_ne other]
  exact ensureDirectory_trunk_concat separated ordinary fits entered

/-- Something is missing above: the ancestors are made first. -/
theorem createChain_of_missing
    (missing : tree.enter (tree.start (Path.trunk before)) (Path.components before) =
      .error .notFound)
    (above : Attempt.Matches (tree.createChain (Path.trunk before).ancestors)
      (tree.grow (tree.start (Path.trunk before)) (Path.components before))) :
    Attempt.Matches
      (tree.createChain (Path.trunk (before ++ [name]) :: (Path.trunk before).ancestors))
      (tree.grow (tree.start (Path.trunk before)) (Path.components before ++ [name])) := by
  have created : tree.createDirectory (Path.trunk (before ++ [name])) = .error .notFound := by
    rw [createDirectory_trunk_concat separated ordinary fits, missing]
    rfl
  rw [createChain_cons_of_missing created, grow_append]
  obtain ⟨sameTree, sameFailure⟩ := above
  cases made : tree.createChain (Path.trunk before).ancestors with
  | mk prepared failure =>
      cases grown : tree.grow (tree.start (Path.trunk before)) (Path.components before) with
      | mk later last =>
          simp only [made, grown] at sameTree sameFailure
          subst sameTree
          cases last with
          | none =>
              cases failure with
              | none => simp at sameFailure
              | some cause => exact ⟨rfl, by simp⟩
          | some place =>
              obtain rfl : failure = none := sameFailure.2 rfl
              have directory := tree.start_isDirectory (Path.trunk before)
              have kept := keepsDirectories_grow directory (Path.components before)
              rw [grown] at kept
              apply ensureDirectory_trunk_concat separated ordinary fits
              rw [kept.start]
              exact enter_of_grow directory (areComponents_components before) grown

/-- Something else stands in the way: nothing is made. -/
theorem createChain_of_blocked {cause : IoError}
    (blocked : tree.enter (tree.start (Path.trunk before)) (Path.components before) =
      .error cause) (other : cause ≠ .notFound) (ancestors : List Path) :
    Attempt.Matches (tree.createChain (Path.trunk (before ++ [name]) :: ancestors))
      (tree, none) := by
  have created : tree.createDirectory (Path.trunk (before ++ [name])) = .error cause := by
    rw [createDirectory_trunk_concat separated ordinary fits, blocked]
    rfl
  have absent : ¬tree.isDirectoryPath (Path.trunk (before ++ [name])) = true := by
    have segments := Path.segments_trunk_concat separated ordinary
    rw [isDirectoryPath_iff (Path.ne_nil_of_segments segments ordinary), segments,
      start_trunk_concat separated ordinary, enter_append,
      ← enter_components (tree.start_isDirectory (Path.trunk before)), blocked]
    simp [Except.bind]
  rw [createChain_cons_of_ne (by simp [created, other])]
  constructor <;> simp [ensureDirectory, created, absent]

/-- One component more: if the directories above are made as the tree grows, so are all. -/
theorem createChain_trunk_concat
    (above : Attempt.Matches (tree.createChain (Path.trunk before).ancestors)
      (tree.grow (tree.start (Path.trunk before)) (Path.components before))) :
    Attempt.Matches
      (tree.createChain (Path.trunk (before ++ [name]) :: (Path.trunk before).ancestors))
      (tree.grow (tree.start (Path.trunk before)) (Path.components before ++ [name])) := by
  have components := areComponents_components before
  have directory := tree.start_isDirectory (Path.trunk before)
  cases entered : tree.enter (tree.start (Path.trunk before)) (Path.components before) with
  | ok place =>
      rw [grow_append, grow_of_enter components entered]
      exact createChain_of_enter separated ordinary fits entered _
  | error cause =>
      by_cases missing : cause = .notFound
      · subst missing
        exact createChain_of_missing separated ordinary fits entered above
      · rw [grow_append, grow_of_enter_error directory components entered missing]
        exact createChain_of_blocked separated ordinary fits entered missing _

end

/-- Creating the directories of a trunk is growing along its components. -/
theorem createDirectories_trunk {before : List Name} (separated : Path.Separated before)
    (fits : (Path.trunk before).Fits) (tree : Tree) :
    Attempt.Matches (tree.createDirectories (Path.trunk before))
      (tree.grow (tree.start (Path.trunk before)) (Path.components before)) := by
  induction before using List.reverseRecOn with
  | nil => exact Attempt.matches_nil tree _
  | append_singleton before name ih =>
      have earlier := separated.append_left
      cases kind : Path.isFiller name with
      | true =>
          rw [Path.components_concat_filler kind]
          by_cases first : before = []
          · subst first
            rw [List.nil_append, createDirectories_filler kind]
            exact Attempt.matches_nil tree _
          · rw [Path.trunk_concat_filler kind first] at fits ⊢
            exact ih earlier fits
      | false =>
          have shorter : (Path.trunk before).Fits := by
            rw [Path.trunk_concat kind] at fits
            exact fits.of_prefix (Path.trunk_prefix before name)
          rw [createDirectories, Path.ancestors_trunk_concat separated kind,
            Path.components_concat kind, start_trunk_concat separated kind]
          exact createChain_trunk_concat separated kind fits (ih earlier shorter)

/-- Where a path cannot be looked up, nothing is made for it. -/
theorem createDirectories_of_not_fits {path : Path} (misfit : ¬path.Fits) (tree : Tree) :
    ∃ cause, tree.createDirectories path = ⟨tree, some cause⟩ := by
  obtain ⟨cause, refused, other⟩ := Path.check_of_not_fits misfit
  have nonempty : path ≠ [] := by
    rintro rfl
    exact misfit (by decide)
  have failed : tree.createDirectory path = .error cause := by
    simp [createDirectory, refused, bind, Except.bind]
  have absent : ¬tree.isDirectoryPath path = true := by
    rw [isDirectoryPath_iff nonempty]
    intro present
    exact misfit present.1
  refine ⟨cause, ?_⟩
  rw [createDirectories, Path.ancestors, Path.ancestorsUpTo, if_neg nonempty,
    createChain_cons_of_ne (by simp [failed, other])]
  simp [ensureDirectory, failed, absent]

end Tree

end ChainLaunchers
