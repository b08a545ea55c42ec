/-
Module: ChainLaunchers.Proofs.Tree.Entering
Purpose: Walking along segments to a directory: which segments count, and in which trees the
  same directory is reached.
Trusted boundary: none
Main exports:
  Tree.enter, Tree.enter_append, Tree.enter_components, Tree.KeepsDirectories, Tree.enter_mono
-/
import ChainLaunchers.Proofs.Path.Segments
import Mathlib.Data.List.Induction

namespace ChainLaunchers

namespace Tree

/-! ### Directories of a tree -/

/-- Above a directory there are directories up to the root. -/
theorem dropLast_isDirectory {tree : Tree} {place : Place}
    (directory : tree.node? place = some .directory) :
    tree.node? place.dropLast = some .directory := by
  rcases List.eq_nil_or_concat place with rfl | ⟨above, name, rfl⟩
  · exact directory
  · rw [List.concat_eq_append] at directory ⊢
    have present : (tree.node? (above ++ [name])).isSome = true := by simp [directory]
    rw [List.dropLast_concat]
    exact tree.parent_isDirectory present

theorem root_isDirectory (tree : Tree) : tree.node? [] = some .directory := by
  suffices top : ∀ place : Place, tree.node? place = some .directory →
      tree.node? [] = some .directory from top _ tree.working_isDirectory
  intro place
  induction place using List.reverseRecOn with
  | nil => exact id
  | append_singleton above name ih =>
      intro directory
      have present : (tree.node? (above ++ [name])).isSome = true := by simp [directory]
      exact ih (tree.parent_isDirectory present)

/-- Where a path starts there is a directory. -/
theorem start_isDirectory (tree : Tree) (path : Path) :
    tree.node? (tree.start path) = some .directory := by
  unfold start
  split
  · exact tree.root_isDirectory
  · exact tree.working_isDirectory

/-! ### One step -/

theorem step_filler {tree : Tree} {place : Place} {segment : Name}
    (directory : tree.node? place = some .directory) (filler : Path.isFiller segment = true) :
    tree.step place segment = .ok place := by
  simp only [Path.isFiller, Bool.or_eq_true, decide_eq_true_eq] at filler
  simp [step, directory, filler]

theorem step_above {tree : Tree} {place : Place} (directory : tree.node? place = some .directory) :
    tree.step place Path.above = .ok place.dropLast := by
  have ordinary : ¬(Path.above = [] ∨ Path.above = Path.here) := by decide
  simp [step, directory, ordinary]

/-- A step along a component that is not the one above looks into the directory. -/
theorem step_component {tree : Tree} {place : Place} {segment : Name}
    (directory : tree.node? place = some .directory) (ordinary : Path.isFiller segment = false)
    (notAbove : segment ≠ Path.above) :
    tree.step place segment =
      if Name.limit < segment.length then .error .nameTooLong
      else if (tree.node? (place ++ [segment])).isSome then .ok (place ++ [segment])
      else .error .notFound := by
  simp only [Path.isFiller, Bool.or_eq_false_iff, decide_eq_false_iff_not] at ordinary
  simp [step, directory, ordinary, notAbove]

theorem step_of_not_directory {tree : Tree} {place : Place}
    (other : tree.node? place ≠ some .directory) (segment : Name) :
    tree.step place segment = .error .notDirectory := by
  unfold step
  split
  · rename_i directory
    exact absurd directory other
  · rfl

/-! ### Entering a directory -/

/-- The directory that segments lead to from a place. -/
def enter (tree : Tree) (place : Place) (segments : List Name) : Except IoError Place := do
  let last ← tree.walk place segments
  match tree.node? last with
  | some .directory => .ok last
  | _ => .error .notDirectory

theorem directoryAt_eq_enter (tree : Tree) (path : Path) (segments : List Name) :
    tree.directoryAt path segments = tree.enter (tree.start path) segments := rfl

theorem enter_nil {tree : Tree} {place : Place} (directory : tree.node? place = some .directory) :
    tree.enter place [] = .ok place := by
  simp [enter, bind, Except.bind, directory]

theorem enter_cons (tree : Tree) (place : Place) (segment : Name) (rest : List Name) :
    tree.enter place (segment :: rest) =
      (tree.step place segment).bind fun next => tree.enter next rest := by
  simp only [enter, walk_cons, bind]
  cases tree.step place segment <;> rfl

theorem enter_of_not_directory {tree : Tree} {place : Place}
    (other : tree.node? place ≠ some .directory) (segments : List Name) :
    tree.enter place segments = .error .notDirectory := by
  cases segments with
  | nil =>
      simp only [enter, walk_nil, bind, Except.bind]
  | cons segment rest =>
      rw [enter_cons, step_of_not_directory other]
      rfl

/-- Entering is walking to a directory. -/
theorem enter_eq_ok_iff {tree : Tree} {place last : Place} {segments : List Name} :
    tree.enter place segments = .ok last ↔
      tree.walk place segments = .ok last ∧ tree.node? last = some .directory := by
  simp only [enter, bind]
  cases tree.walk place segments with
  | error cause => simp [Except.bind]
  | ok next =>
      simp only [Except.bind, Except.ok.injEq]
      split
      · rename_i directory
        simp only [Except.ok.injEq, iff_self_and]
        rintro rfl
        exact directory
      · rename_i other
        simp only [reduceCtorEq, false_iff, not_and]
        rintro rfl
        exact other

/-- What is entered is a directory. -/
theorem enter_isDirectory {tree : Tree} {place last : Place} {segments : List Name}
    (entered : tree.enter place segments = .ok last) : tree.node? last = some .directory :=
  (enter_eq_ok_iff.1 entered).2

/-- Only a directory lets anything be entered. -/
theorem isDirectory_of_enter {tree : Tree} {place last : Place} {segments : List Name}
    (entered : tree.enter place segments = .ok last) : tree.node? place = some .directory := by
  apply Classical.byContradiction
  intro other
  rw [enter_of_not_directory other] at entered
  cases entered

theorem enter_append (tree : Tree) (place : Place) (first second : List Name) :
    tree.enter place (first ++ second) =
      (tree.enter place first).bind fun next => tree.enter next second := by
  by_cases directory : tree.node? place = some .directory
  · induction first generalizing place with
    | nil =>
        rw [enter_nil directory]
        rfl
    | cons segment rest ih =>
        rw [List.cons_append, enter_cons, enter_cons]
        cases tree.step place segment with
        | error cause => rfl
        | ok next =>
            by_cases deeper : tree.node? next = some .directory
            · exact ih next deeper
            · simp only [Except.bind, enter_of_not_directory deeper]
  · rw [enter_of_not_directory directory, enter_of_not_directory directory]
    rfl

/-- The last of several steps is taken from a directory. -/
theorem walk_concat (tree : Tree) (place : Place) (segments : List Name) (last : Name) :
    tree.walk place (segments ++ [last]) =
      (tree.enter place segments).bind fun directory => tree.step directory last := by
  rw [walk_append, enter]
  cases tree.walk place segments with
  | error cause => rfl
  | ok next =>
      by_cases directory : tree.node? next = some .directory
      · simp only [bind, Except.bind, directory, walk_cons, walk_nil]
        cases tree.step next last <;> rfl
      · simp only [bind, Except.bind, walk_cons, step_of_not_directory directory]

theorem enter_cons_above {tree : Tree} {place : Place}
    (directory : tree.node? place = some .directory) (rest : List Name) :
    tree.enter place (Path.above :: rest) = tree.enter place.dropLast rest := by
  rw [enter_cons, step_above directory]
  rfl

/-- A directory of the place is gone through. -/
theorem enter_cons_directory {tree : Tree} {place : Place} {name : Name}
    (directory : tree.node? place = some .directory) (ordinary : Path.isFiller name = false)
    (notAbove : name ≠ Path.above) (short : ¬Name.limit < name.length)
    (deeper : tree.node? (place ++ [name]) = some .directory) (rest : List Name) :
    tree.enter place (name :: rest) = tree.enter (place ++ [name]) rest := by
  rw [enter_cons, step_component directory ordinary notAbove, if_neg short,
    if_pos (by simp [deeper])]
  rfl

/-- Fillers do not matter on the way to a directory. -/
theorem enter_components {tree : Tree} {place : Place}
    (directory : tree.node? place = some .directory) (segments : List Name) :
    tree.enter place (Path.components segments) = tree.enter place segments := by
  induction segments generalizing place with
  | nil => rfl
  | cons segment rest ih =>
      cases kind : Path.isFiller segment with
      | true =>
          have dropped : Path.components (segment :: rest) = Path.components rest := by
            simp [Path.components, kind]
          rw [dropped, enter_cons, step_filler directory kind]
          exact ih directory
      | false =>
          have kept : Path.components (segment :: rest) = segment :: Path.components rest := by
            simp [Path.components, kind]
          rw [kept, enter_cons, enter_cons]
          cases tree.step place segment with
          | error cause => rfl
          | ok next =>
              by_cases deeper : tree.node? next = some .directory
              · exact ih deeper
              · simp only [Except.bind, enter_of_not_directory deeper]

/-! ### Trees that keep directories -/

/-- Every directory of the earlier tree is one of the later tree too, and the working directory
is the same. -/
structure KeepsDirectories (earlier later : Tree) : Prop where
  directories : ∀ place, earlier.node? place = some .directory →
    later.node? place = some .directory
  working : later.workingPlace = earlier.workingPlace

theorem KeepsDirectories.refl (tree : Tree) : KeepsDirectories tree tree := ⟨fun _ => id, rfl⟩

theorem KeepsDirectories.trans {first second third : Tree} (earlier : KeepsDirectories first second)
    (later : KeepsDirectories second third) : KeepsDirectories first third :=
  ⟨fun place directory => later.directories place (earlier.directories place directory),
    later.working.trans earlier.working⟩

theorem KeepsDirectories.start {earlier later : Tree} (keeps : KeepsDirectories earlier later)
    (path : Path) : later.start path = earlier.start path := by
  simp only [Tree.start, keeps.working]

/-- A directory that is entered stays where it is as long as directories are kept. -/
theorem enter_mono {earlier later : Tree} (keeps : KeepsDirectories earlier later)
    {place last : Place} {segments : List Name}
    (entered : earlier.enter place segments = .ok last) :
    later.enter place segments = .ok last := by
  induction segments generalizing place with
  | nil =>
      have directory := isDirectory_of_enter entered
      rw [enter_nil directory] at entered
      rw [enter_nil (keeps.directories place directory), entered]
  | cons segment rest ih =>
      have directory := isDirectory_of_enter entered
      have kept := keeps.directories place directory
      rw [enter_cons] at entered ⊢
      cases kind : Path.isFiller segment with
      | true =>
          rw [step_filler directory kind] at entered
          rw [step_filler kept kind]
          exact ih entered
      | false =>
          by_cases up : segment = Path.above
          · subst up
            rw [step_above directory] at entered
            rw [step_above kept]
            exact ih entered
          · rw [step_component directory kind up] at entered
            rw [step_component kept kind up]
            by_cases long : Name.limit < segment.length
            · simp [long, Except.bind] at entered
            · rw [if_neg long] at entered ⊢
              by_cases present : (earlier.node? (place ++ [segment])).isSome = true
              · rw [if_pos present] at entered
                have deeper := keeps.directories _ (isDirectory_of_enter entered)
                rw [if_pos (by simp [deeper])]
                exact ih entered
              · simp [present, Except.bind] at entered

theorem directoryAt_mono {earlier later : Tree} (keeps : KeepsDirectories earlier later)
    {path : Path} {segments : List Name} {place : Place}
    (entered : earlier.directoryAt path segments = .ok place) :
    later.directoryAt path segments = .ok place := by
  rw [directoryAt_eq_enter, keeps.start] at *
  exact enter_mono keeps entered

end Tree

end ChainLaunchers
