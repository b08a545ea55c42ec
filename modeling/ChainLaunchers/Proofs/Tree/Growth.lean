/-
Module: ChainLaunchers.Proofs.Tree.Growth
Purpose: Growing a tree along names: what is missing is made, and the first name that can be
  no directory ends it.
Trusted boundary: none
Main exports:
  Tree.grow, Tree.grow_append, Tree.grow_of_enter, Tree.grow_of_enter_error, Tree.enter_of_grow,
  Tree.node?_grow_of_some, Tree.node?_grow, Tree.grow_again, Tree.grow_mono
-/
import ChainLaunchers.Proofs.Tree.Entering

namespace ChainLaunchers

namespace Tree

/-!
Creating the directories of a path tries the whole path first, then shorter and shorter ones,
and then longer ones again.  What comes of it can be told in one go along the names of the path.
-/

/-- Goes along names from a place and makes the directories that are missing.  The result is
the grown tree and the last directory, unless a name is too long or that of a file; then the
directories before it have been made all the same. -/
def grow (tree : Tree) (place : Place) : List Name → Tree × Option Place
  | [] => (tree, some place)
  | name :: rest =>
    if name = Path.above then tree.grow place.dropLast rest
    else if Name.limit < name.length then (tree, none)
    else
      match tree.node? (place ++ [name]) with
      | some .directory => tree.grow (place ++ [name]) rest
      | some (.file _) => (tree, none)
      | none => (tree.put place name .directory).grow (place ++ [name]) rest

/-! ### Making one directory -/

section

variable {tree : Tree} {place : Place} {name : Name}

theorem node?_put_missing (directory : tree.node? place = some .directory)
    (missing : tree.node? (place ++ [name]) = none) (node : Node) (other : Place) :
    (tree.put place name node).node? other =
      if other = place ++ [name] then some node else tree.node? other :=
  node?_put directory (by simp [missing]) node other

/-- A place that holds something is not the place of a missing name. -/
theorem node?_put_of_some (directory : tree.node? place = some .directory)
    (missing : tree.node? (place ++ [name]) = none) {other : Place} {node : Node}
    (present : tree.node? other = some node) :
    (tree.put place name .directory).node? other = some node := by
  rw [node?_put_missing directory missing, if_neg, present]
  rintro rfl
  rw [missing] at present
  cases present

theorem node?_put_self (directory : tree.node? place = some .directory)
    (missing : tree.node? (place ++ [name]) = none) :
    (tree.put place name .directory).node? (place ++ [name]) = some .directory := by
  rw [node?_put_missing directory missing, if_pos rfl]

end

/-! ### What growing keeps -/

@[simp] theorem workingPlace_grow (tree : Tree) (place : Place) (names : List Name) :
    (tree.grow place names).1.workingPlace = tree.workingPlace := by
  fun_induction grow tree place names <;> simp_all

/-- Nothing that is in the tree goes away or changes. -/
theorem node?_grow_of_some {tree : Tree} {place : Place}
    (directory : tree.node? place = some .directory) (names : List Name) {other : Place}
    {node : Node} (present : tree.node? other = some node) :
    (tree.grow place names).1.node? other = some node := by
  fun_induction grow tree place names with
  | case1 => exact present
  | case2 tree place rest ih => exact ih (dropLast_isDirectory directory) present
  | case3 => exact present
  | case4 tree place name rest _ _ found ih => exact ih found present
  | case5 => exact present
  | case6 tree place name rest _ _ missing ih =>
      exact ih (node?_put_self directory missing) (node?_put_of_some directory missing present)

theorem keepsDirectories_grow {tree : Tree} {place : Place}
    (directory : tree.node? place = some .directory) (names : List Name) :
    KeepsDirectories tree (tree.grow place names).1 :=
  ⟨fun _ present => node?_grow_of_some directory names present, workingPlace_grow tree place names⟩

/-- Names one after another: growing stops where it stops for the first ones. -/
theorem grow_append (tree : Tree) (place : Place) (first second : List Name) :
    tree.grow place (first ++ second) =
      match tree.grow place first with
      | (grown, some last) => grown.grow last second
      | (grown, none) => (grown, none) := by
  fun_induction grow tree place first with
  | case1 => rfl
  | case2 tree place rest ih =>
      rw [List.cons_append, grow, if_pos rfl, ih]
  | case3 tree place name rest up long =>
      rw [List.cons_append, grow, if_neg up, if_pos long]
  | case4 tree place name rest up long found ih =>
      rw [List.cons_append, grow, if_neg up, if_neg long]
      simp only [found, ih]
  | case5 tree place name rest up long content found =>
      rw [List.cons_append, grow, if_neg up, if_neg long]
      simp only [found]
  | case6 tree place name rest up long missing ih =>
      rw [List.cons_append, grow, if_neg up, if_neg long]
      simp only [missing, ih]

/-! ### Growing and entering -/

/-- A component is no filler. -/
def AreComponents (names : List Name) : Prop := ∀ name ∈ names, Path.isFiller name = false

theorem areComponents_components (segments : List Name) :
    AreComponents (Path.components segments) := by
  intro name mem
  simpa using (List.mem_filter.1 mem).2

theorem AreComponents.tail {name : Name} {rest : List Name}
    (components : AreComponents (name :: rest)) : AreComponents rest := by
  intro later mem
  exact components later (List.mem_cons_of_mem _ mem)

theorem AreComponents.head {name : Name} {rest : List Name}
    (components : AreComponents (name :: rest)) : Path.isFiller name = false :=
  components name (by simp)

/-- Where everything is there already, growing changes nothing. -/
theorem grow_of_enter {tree : Tree} {place last : Place} {names : List Name}
    (components : AreComponents names) (entered : tree.enter place names = .ok last) :
    tree.grow place names = (tree, some last) := by
  have directory := isDirectory_of_enter entered
  induction names generalizing place with
  | nil =>
      rw [enter_nil directory] at entered
      rw [grow, Except.ok.inj entered]
  | cons name rest ih =>
      have ordinary := components.head
      have later := components.tail
      rw [enter_cons] at entered
      rw [grow]
      by_cases up : name = Path.above
      · subst up
        rw [step_above directory] at entered
        rw [if_pos rfl]
        exact ih later entered (dropLast_isDirectory directory)
      · rw [step_component directory ordinary up] at entered
        rw [if_neg up]
        by_cases long : Name.limit < name.length
        · simp [long, Except.bind] at entered
        · rw [if_neg long] at entered ⊢
          by_cases present : (tree.node? (place ++ [name])).isSome = true
          · rw [if_pos present] at entered
            have deeper := isDirectory_of_enter entered
            simp only [deeper]
            exact ih later entered deeper
          · simp [present, Except.bind] at entered

/-- What stands in the way other than a missing name ends growing before anything is made. -/
theorem grow_of_enter_error {tree : Tree} {place : Place} {names : List Name} {cause : IoError}
    (directory : tree.node? place = some .directory) (components : AreComponents names)
    (failed : tree.enter place names = .error cause) (other : cause ≠ .notFound) :
    tree.grow place names = (tree, none) := by
  induction names generalizing place with
  | nil =>
      rw [enter_nil directory] at failed
      cases failed
  | cons name rest ih =>
      have ordinary := components.head
      have later := components.tail
      rw [enter_cons] at failed
      rw [grow]
      by_cases up : name = Path.above
      · subst up
        rw [step_above directory] at failed
        rw [if_pos rfl]
        exact ih (dropLast_isDirectory directory) later failed
      · rw [step_component directory ordinary up] at failed
        rw [if_neg up]
        by_cases long : Name.limit < name.length
        · rw [if_pos long]
        · rw [if_neg long] at failed ⊢
          cases found : tree.node? (place ++ [name]) with
          | none =>
              simp only [found, Option.isSome_none, Except.bind] at failed
              exact absurd (Except.error.inj failed).symm other
          | some node =>
              simp only [found, Option.isSome_some, if_pos] at failed
              cases node with
              | file content => rfl
              | directory => exact ih found later failed

/-- The last directory of a grown tree is entered along the names. -/
theorem enter_of_grow {tree grown : Tree} {place last : Place} {names : List Name}
    (directory : tree.node? place = some .directory) (components : AreComponents names)
    (success : tree.grow place names = (grown, some last)) :
    grown.enter place names = .ok last := by
  have kept := keepsDirectories_grow directory names
  rw [success] at kept
  have still := kept.directories place directory
  fun_induction grow tree place names with
  | case1 tree place =>
      obtain ⟨rfl, rfl⟩ : tree = grown ∧ place = last := by simpa using success
      exact enter_nil directory
  | case2 tree place rest ih =>
      rw [enter_cons_above still]
      exact ih (dropLast_isDirectory directory) components.tail success kept
        (dropLast_isDirectory still)
  | case3 => simp at success
  | case4 tree place name rest up long found ih =>
      have deeper := kept.directories _ found
      rw [enter_cons_directory still components.head up long deeper]
      exact ih found components.tail success kept deeper
  | case5 => simp at success
  | case6 tree place name rest up long missing ih =>
      have made := node?_put_self directory missing
      have keptLater := keepsDirectories_grow made rest
      rw [success] at keptLater
      have deeper := keptLater.directories _ made
      rw [enter_cons_directory still components.head up long deeper]
      exact ih made components.tail success keptLater deeper

/-- What growing adds is directories that the names lead to, some of the first ones or all. -/
theorem node?_grow {tree : Tree} {place : Place} {names : List Name}
    (directory : tree.node? place = some .directory) (components : AreComponents names)
    {other : Place} {node : Node} (present : (tree.grow place names).1.node? other = some node) :
    tree.node? other = some node ∨
      node = .directory ∧ ∃ first, first <+: names ∧
        (tree.grow place names).1.enter place first = .ok other := by
  have kept := keepsDirectories_grow directory names
  have still := kept.directories place directory
  fun_induction grow tree place names with
  | case1 => exact Or.inl present
  | case2 tree place rest ih =>
      rcases ih (dropLast_isDirectory directory) components.tail present kept
        (dropLast_isDirectory still) with old | ⟨made, first, before, entered⟩
      · exact Or.inl old
      · refine Or.inr ⟨made, Path.above :: first, List.cons_prefix_cons.2 ⟨rfl, before⟩, ?_⟩
        rw [enter_cons_above still, entered]
  | case3 => exact Or.inl present
  | case4 tree place name rest up long found ih =>
      have deeper := kept.directories _ found
      rcases ih found components.tail present kept deeper with old | ⟨made, first, before, entered⟩
      · exact Or.inl old
      · refine Or.inr ⟨made, name :: first, List.cons_prefix_cons.2 ⟨rfl, before⟩, ?_⟩
        rw [enter_cons_directory still components.head up long deeper, entered]
  | case5 => exact Or.inl present
  | case6 tree place name rest up long missing ih =>
      have made := node?_put_self directory missing
      have keptLater := keepsDirectories_grow made rest
      have deeper := keptLater.directories _ made
      rcases ih made components.tail present keptLater deeper with
        old | ⟨new, first, before, entered⟩
      · rw [node?_put_missing directory missing] at old
        by_cases same : other = place ++ [name]
        · rw [if_pos same] at old
          refine Or.inr ⟨(Option.some.inj old).symm, [name], ?_, ?_⟩
          · exact List.cons_prefix_cons.2 ⟨rfl, List.nil_prefix⟩
          · rw [enter_cons_directory still components.head up long deeper, enter_nil deeper, same]
        · rw [if_neg same] at old
          exact Or.inl old
      · refine Or.inr ⟨new, name :: first, List.cons_prefix_cons.2 ⟨rfl, before⟩, ?_⟩
        rw [enter_cons_directory still components.head up long deeper, entered]

/-! ### Growing again -/

/-- Where growing stops it stops again, and makes nothing new. -/
theorem grow_again {tree grown : Tree} {place : Place} {names : List Name}
    (directory : tree.node? place = some .directory)
    (stopped : tree.grow place names = (grown, none)) :
    grown.grow place names = (grown, none) := by
  have kept := keepsDirectories_grow directory names
  rw [stopped] at kept
  fun_induction grow tree place names with
  | case1 => simp at stopped
  | case2 tree place rest ih =>
      rw [grow, if_pos rfl]
      exact ih (dropLast_isDirectory directory) stopped kept
  | case3 tree place name rest up long =>
      rw [grow, if_neg up, if_pos long]
  | case4 tree place name rest up long found ih =>
      rw [grow, if_neg up, if_neg long]
      simp only [kept.directories _ found]
      exact ih found stopped kept
  | case5 tree place name rest up long content found =>
      obtain rfl : tree = grown := by simpa using stopped
      rw [grow, if_neg up, if_neg long]
      simp only [found]
  | case6 tree place name rest up long missing ih =>
      have made := node?_put_self directory missing
      have keptLater := keepsDirectories_grow made rest
      rw [stopped] at keptLater
      rw [grow, if_neg up, if_neg long]
      simp only [keptLater.directories _ made]
      exact ih made stopped keptLater

/-- A tree that keeps the directories of a grown one needs no growing. -/
theorem grow_mono {tree grown later : Tree} {place last : Place} {names : List Name}
    (directory : tree.node? place = some .directory) (components : AreComponents names)
    (success : tree.grow place names = (grown, some last)) (keeps : KeepsDirectories grown later) :
    later.grow place names = (later, some last) :=
  grow_of_enter components (enter_mono keeps (enter_of_grow directory components success))

end Tree

end ChainLaunchers
