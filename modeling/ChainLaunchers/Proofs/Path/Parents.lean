/-
Module: ChainLaunchers.Proofs.Path.Parents
Purpose: Any path told from the directory path that its lexical parent stands for: which paths
  have a name for a file at their end, and which beginnings of the segments its ancestors are.
Trusted boundary: none
Main exports:
  Path.parents, Path.container, Path.stem, Path.inside_stem, Path.join_stem, Path.exists_parent,
  Path.join_or_unfit, Path.components_trunk, Path.exists_ancestor
-/
import ChainLaunchers.Proofs.Tree.Directories
import Mathlib.Data.List.Induction

namespace ChainLaunchers

namespace Path

/-- The lexical ancestors of a path, the longest first, without the path itself and without the
empty path. -/
def parents (path : Path) : List Path := (path.parent?.getD []).ancestors

/-- The path of the directory in which the path names an entry: the lexical parent, or the working
directory where there is none or it is empty. -/
def container (path : Path) : Path :=
  match path.parent?.getD [] with
  | [] => here
  | parent => parent

theorem container_of_ne_nil {path : Path} (nonempty : path.parent?.getD [] ≠ []) :
    path.container = path.parent?.getD [] := by
  unfold container
  split
  · rename_i empty
    exact absurd empty nonempty
  · rfl

/-! ### The directory path before a name -/

/-- A directory path inside of which names come after the given segments. -/
def stem (before : List Name) : Path :=
  if before = [] then [] else Bytes.joinWith separator before ++ [separator]

theorem inside_stem {before : List Name} (separated : Separated before) :
    (stem before).inside = before := by
  by_cases empty : before = []
  · subst empty
    rfl
  · rw [stem, if_neg empty, inside, if_neg (by simp), if_pos (by simp), segments_append_separator,
      List.dropLast_concat, segments_joinWith empty separated]

/-- Segments with a name after them are the name inside of their directory path. -/
theorem join_stem {name : Name} (entry : IsEntryName name) (before : List Name) :
    (stem before).join name = Bytes.joinWith separator (before ++ [name]) := by
  rw [join, if_neg (by simp [entry.not_isAbsolute])]
  by_cases empty : before = []
  · subst empty
    rfl
  · rw [stem, if_neg empty, if_pos (Or.inr (by simp)),
      Bytes.joinWith_append separator empty (by simp), List.append_assoc]
    rfl

/-! ### Parents -/

/-- Every lexical parent is what comes before the names inside of some directory path. -/
theorem exists_parent (path : Path) :
    ∃ directory : Path, path.parent?.getD [] = trunk directory.inside := by
  rcases exists_last_component path.segments with
    filling | ⟨before, name, fillers, segments, ordinary, filling⟩
  · exact ⟨[], parent_of_fillers filling⟩
  · have separated : Separated before := by
      have whole := separated_segments path
      rw [segments] at whole
      exact whole.append_left
    refine ⟨stem before, ?_⟩
    rw [parent?_of_segments segments ordinary filling, inside_stem separated, Option.getD_some]

/-- A path ends with a name for an entry, or it can be the path of a directory only. -/
theorem join_or_unfit (path : Path) :
    (∃ (directory : Path) (name : Name), IsEntryName name ∧ path = directory.join name) ∨
      (isSpecial path.split.name || path.split.trailing) = true := by
  rcases List.eq_nil_or_concat path.segments with none | ⟨before, last, segments⟩
  · exact absurd none (segments_ne_nil path)
  · rw [List.concat_eq_append] at segments
    have separated := separated_segments path
    rw [segments] at separated
    have whole := joinWith_segments path
    rw [segments] at whole
    by_cases named : last = []
    · subst named
      by_cases empty : before = []
      · subst empty
        obtain rfl : [] = path := whole
        exact Or.inr rfl
      · rw [Bytes.joinWith_append separator empty (by simp)] at whole
        have trailing : path.getLast? = some separator := by
          rw [← whole]
          exact List.getLast?_concat
        exact Or.inr (by simp [split, trailing])
    · rw [split_of_segments named segments, Bool.or_false]
      cases special : isSpecial last with
      | true => exact Or.inr rfl
      | false =>
          have entry : IsEntryName last := ⟨special, separated last (by simp)⟩
          exact Or.inl ⟨stem before, last, entry, by rw [join_stem entry, whole]⟩

/-! ### Ancestors -/

/-- A trunk has the components that it was made of. -/
theorem components_trunk {before : List Name} (separated : Separated before) :
    components (trunk before).segments = components before := by
  induction before using List.reverseRecOn with
  | nil => rfl
  | append_singleton before name ih =>
      cases kind : isFiller name with
      | false => rw [segments_trunk_concat separated kind]
      | true =>
          rw [components_concat_filler kind]
          by_cases first : before = []
          · subst first
            rcases trunk_filler kind with root | working
            · rw [List.nil_append, root]
              decide
            · rw [List.nil_append, working]
              decide
          · rw [trunk_concat_filler kind first, ih separated.append_left]

/-- Every beginning of the components is what some ancestor of the trunk consists of. -/
theorem exists_ancestor {before first : List Name} (separated : Separated before)
    (begins : first <+: components before) (nonempty : first ≠ []) :
    ∃ front name, Separated (front ++ [name]) ∧ isFiller name = false ∧
      components (front ++ [name]) = first ∧
      trunk (front ++ [name]) ∈ (trunk before).ancestors ∧
      trunk (front ++ [name]) <+: trunk before := by
  induction before using List.reverseRecOn with
  | nil => exact absurd (List.prefix_nil.1 begins) nonempty
  | append_singleton before name ih =>
      have earlier := separated.append_left
      cases kind : isFiller name with
      | true =>
          rw [components_concat_filler kind] at begins
          by_cases alone : before = []
          · subst alone
            exact absurd (List.prefix_nil.1 begins) nonempty
          · rw [trunk_concat_filler kind alone]
            exact ih earlier begins
      | false =>
          rw [components_concat kind] at begins
          rw [ancestors_trunk_concat separated kind]
          rcases List.prefix_concat_iff.1 begins with whole | shorter
          · refine ⟨before, name, separated, kind, ?_, List.mem_cons_self, List.prefix_rfl⟩
            rw [components_concat kind, whole]
          · obtain ⟨front, last, clean, ordinary, same, mem, within⟩ := ih earlier shorter
            refine ⟨front, last, clean, ordinary, same, List.mem_cons_of_mem _ mem, ?_⟩
            rw [trunk_concat kind]
            refine within.trans ?_
            exact trunk_prefix before name

end Path

end ChainLaunchers
