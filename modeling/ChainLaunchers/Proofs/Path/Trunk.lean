/-
Module: ChainLaunchers.Proofs.Path.Trunk
Purpose: The lexical parent of a path and its ancestors, told from the segments before the last
  component.
Trusted boundary: none
Main exports:
  Path.trunk, Path.parent?_of_segments, Path.ancestors_trunk_concat, Path.trunk_prefix,
  Path.isAbsolute_trunk
-/
import ChainLaunchers.Proofs.Path.Segments

namespace ChainLaunchers

namespace Path

/-! ### Fillers at the end -/

theorem dropFillers_concat {segment : Name} (ordinary : isFiller segment = false)
    (before : List Name) : dropFillers (before ++ [segment]) = before ++ [segment] := by
  simp [dropFillers, ordinary]

theorem dropFillers_concat_filler {segment : Name} (filler : isFiller segment = true)
    (before : List Name) : dropFillers (before ++ [segment]) = dropFillers before := by
  simp [dropFillers, filler]

theorem dropFillers_append_fillers {fillers : List Name} (before : List Name)
    (filling : ∀ filler ∈ fillers, isFiller filler = true) :
    dropFillers (before ++ fillers) = dropFillers before := by
  rw [dropFillers, List.reverse_append, List.dropWhile_append_of_pos, dropFillers]
  intro filler mem
  exact filling filler (List.mem_reverse.1 mem)

theorem dropFillers_eq_nil {fillers : List Name}
    (filling : ∀ filler ∈ fillers, isFiller filler = true) : dropFillers fillers = [] :=
  dropFillers_append_fillers [] filling

theorem dropFillers_prefix (segments : List Name) : dropFillers segments <+: segments := by
  have suffix : segments.reverse.dropWhile isFiller <:+ segments.reverse :=
    List.dropWhile_suffix isFiller
  simpa [dropFillers] using List.reverse_prefix.2 suffix

/-! ### The path of the segments before a component -/

/-- The path that is left of segments when a component after them is taken away: fillers at
the end go too, except for a first segment. -/
def trunk : List Name → Path
  | [] => []
  | first :: others =>
    match dropFillers others with
    | [] => if first = [] then [separator] else first
    | kept => Bytes.joinWith separator (first :: kept)

/-- The lexical parent of a path is the trunk of the segments before its last component.
Fillers after that component do not count. -/
theorem parent?_of_segments {path : Path} {before fillers : List Name} {name : Name}
    (segments : path.segments = before ++ name :: fillers) (ordinary : isFiller name = false)
    (filling : ∀ filler ∈ fillers, isFiller filler = true) :
    path.parent? = some (trunk before) := by
  unfold parent?
  rw [segments]
  cases before with
  | nil =>
      have nonempty : name ≠ [] := by
        rintro rfl
        exact absurd ordinary (by decide)
      simp [dropFillers_eq_nil filling, trunk, nonempty]
  | cons first others =>
      have ending : dropFillers (others ++ name :: fillers) = others ++ [name] := by
        rw [List.append_cons, dropFillers_append_fillers _ filling, dropFillers_concat ordinary]
      simp only [List.cons_append, ending, trunk]
      split
      · rename_i impossible
        simp at impossible
      · rw [List.dropLast_concat]
        cases dropFillers others with
        | nil => by_cases root : first = [] <;> simp [root]
        | cons component more => rfl

/-- A component at the end belongs to the trunk. -/
theorem trunk_concat {name : Name} (ordinary : isFiller name = false) (before : List Name) :
    trunk (before ++ [name]) = Bytes.joinWith separator (before ++ [name]) := by
  cases before with
  | nil =>
      have nonempty : name ≠ [] := by
        rintro rfl
        exact absurd ordinary (by decide)
      simp [trunk, dropFillers, nonempty, Bytes.joinWith]
  | cons first others =>
      simp only [List.cons_append, trunk, dropFillers_concat ordinary]
      split
      · rename_i impossible
        simp at impossible
      · rfl

/-- A filler after other segments does not belong to the trunk. -/
theorem trunk_concat_filler {filler : Name} (isFiller : isFiller filler = true)
    {before : List Name} (nonempty : before ≠ []) : trunk (before ++ [filler]) = trunk before := by
  cases before with
  | nil => exact absurd rfl nonempty
  | cons first others => simp only [List.cons_append, trunk, dropFillers_concat_filler isFiller]

/-- The trunk of a single filler is the root or the working directory by its own name. -/
theorem trunk_filler {filler : Name} (filling : isFiller filler = true) :
    trunk [filler] = [separator] ∨ trunk [filler] = here := by
  simp only [isFiller, Bool.or_eq_true, decide_eq_true_eq] at filling
  rcases filling with rfl | rfl
  · exact Or.inl rfl
  · exact Or.inr rfl

theorem segments_trunk_concat {before : List Name} {name : Name}
    (separated : Separated (before ++ [name])) (ordinary : isFiller name = false) :
    (trunk (before ++ [name])).segments = before ++ [name] := by
  rw [trunk_concat ordinary]
  exact segments_joinWith (by simp) separated

/-! ### Trunks as texts -/

theorem prefix_joinWith {first : List Name} (nonempty : first ≠ []) (second : List Name) :
    Bytes.joinWith separator first <+: Bytes.joinWith separator (first ++ second) := by
  by_cases last : second = []
  · simp [last]
  · rw [Bytes.joinWith_append separator nonempty last]
    exact List.prefix_append _ _

/-- A trunk is the beginning of the path of its segments; of the root only the separator
stays. -/
theorem trunk_prefix_joinWith {before : List Name} (nonempty : before ≠ []) :
    trunk before <+: Bytes.joinWith separator before ++ [separator] := by
  cases before with
  | nil => exact absurd rfl nonempty
  | cons first others =>
      obtain ⟨fillers, whole⟩ := dropFillers_prefix others
      cases kept : dropFillers others with
      | nil =>
          by_cases empty : first = []
          · subst empty
            simp only [trunk, kept, if_pos]
            cases others with
            | nil => exact List.prefix_rfl
            | cons second more =>
                exact ⟨Bytes.joinWith separator (second :: more) ++ [separator], rfl⟩
          · simp only [trunk, kept, if_neg empty]
            exact (prefix_joinWith (List.cons_ne_nil first []) others).trans
              (List.prefix_append _ _)
      | cons component more =>
          rw [kept] at whole
          simp only [trunk, kept]
          rw [← whole]
          exact (prefix_joinWith (List.cons_ne_nil first (component :: more)) fillers).trans
            (List.prefix_append _ _)

/-- The path of segments with a name after them goes on after their trunk. -/
theorem trunk_prefix (before : List Name) (name : Name) :
    trunk before <+: Bytes.joinWith separator (before ++ [name]) := by
  by_cases empty : before = []
  · subst empty
    exact List.nil_prefix
  · rw [Bytes.joinWith_append separator empty (by simp)]
    refine (trunk_prefix_joinWith empty).trans ⟨name, ?_⟩
    simp [Bytes.joinWith]

theorem length_trunk_lt {name : Name} (nonempty : name ≠ []) (before : List Name) :
    (trunk before).length < (Bytes.joinWith separator (before ++ [name])).length := by
  have positive := List.length_pos_iff.2 nonempty
  by_cases empty : before = []
  · subst empty
    simpa [trunk, Bytes.joinWith] using positive
  · have short := (trunk_prefix_joinWith empty).length_le
    rw [Bytes.joinWith_append separator empty (by simp)]
    simp only [List.length_append, List.length_cons, List.length_nil, Bytes.joinWith] at short ⊢
    omega

theorem trunk_eq_nil_iff (before : List Name) : trunk before = [] ↔ before = [] := by
  cases before with
  | nil => simp [trunk]
  | cons first others =>
      cases kept : dropFillers others with
      | nil => by_cases empty : first = [] <;> simp [trunk, kept, empty]
      | cons component more => simp [trunk, kept, Bytes.joinWith]

/-- A trunk is absolute exactly if the path is that goes on after it. -/
theorem isAbsolute_trunk {name : Name} (separated : separator ∉ name) (before : List Name) :
    isAbsolute (trunk before) = isAbsolute (Bytes.joinWith separator (before ++ [name])) := by
  by_cases empty : before = []
  · subst empty
    cases name with
    | nil => rfl
    | cons byte rest =>
        have different : byte ≠ separator := fun same => separated (by simp [same])
        simp [trunk, Bytes.joinWith, isAbsolute, different]
  · obtain ⟨rest, whole⟩ := trunk_prefix before name
    rw [← whole]
    exact (isAbsolute_append (mt (trunk_eq_nil_iff before).1 empty)).symm

/-! ### Ancestors -/

/-- Segments hold a last component or consist of fillers. -/
theorem exists_last_component (segments : List Name) :
    (∀ segment ∈ segments, isFiller segment = true) ∨
      ∃ before name fillers, segments = before ++ name :: fillers ∧ isFiller name = false ∧
        ∀ filler ∈ fillers, isFiller filler = true := by
  induction segments with
  | nil => exact Or.inl (by simp)
  | cons first others ih =>
      rcases ih with filling | ⟨before, name, fillers, rfl, ordinary, filling⟩
      · cases kind : isFiller first with
        | true => exact Or.inl (by simpa [kind] using filling)
        | false => exact Or.inr ⟨[], first, others, rfl, kind, filling⟩
      · exact Or.inr ⟨first :: before, name, fillers, rfl, ordinary, filling⟩

/-- A path of fillers alone has no parent but the empty path. -/
theorem parent_of_fillers {path : Path}
    (filling : ∀ segment ∈ path.segments, isFiller segment = true) :
    path.parent?.getD [] = [] := by
  unfold parent?
  cases pieces : path.segments with
  | nil => rfl
  | cons first others =>
      have gone : dropFillers others = [] :=
        dropFillers_eq_nil fun filler mem => filling filler (by simp [pieces, mem])
      by_cases root : first = [] <;> simp [gone, root]

/-- The lexical parent is shorter. -/
theorem length_parent_lt {path parent : Path} (nonempty : path ≠ [])
    (found : path.parent? = some parent) : parent.length < path.length := by
  rcases exists_last_component path.segments with
    filling | ⟨before, name, fillers, segments, ordinary, filling⟩
  · have empty := parent_of_fillers filling
    rw [found, Option.getD_some] at empty
    rw [empty]
    exact List.length_pos_iff.2 nonempty
  · rw [parent?_of_segments segments ordinary filling] at found
    obtain rfl := Option.some.inj found
    have named : name ≠ [] := by
      rintro rfl
      exact absurd ordinary (by decide)
    have whole : path = Bytes.joinWith separator ((before ++ [name]) ++ fillers) := by
      rw [← joinWith_segments path, segments, List.append_assoc, List.singleton_append]
    calc (trunk before).length
        < (Bytes.joinWith separator (before ++ [name])).length := length_trunk_lt named before
      _ ≤ path.length := by
        rw [whole]
        exact (prefix_joinWith (by simp) fillers).length_le

/-- The ancestors of a path do not depend on the bound, as long as it is large enough. -/
theorem ancestorsUpTo_eq {bound other : Nat} {path : Path} (large : path.length < bound)
    (largeOther : path.length < other) : ancestorsUpTo bound path = ancestorsUpTo other path := by
  induction bound generalizing other path with
  | zero => exact absurd large (Nat.not_lt_zero _)
  | succ bound ih =>
      cases other with
      | zero => exact absurd largeOther (Nat.not_lt_zero _)
      | succ other =>
          by_cases empty : path = []
          · simp [ancestorsUpTo, empty]
          · rw [ancestorsUpTo, ancestorsUpTo, if_neg empty, if_neg empty]
            cases found : path.parent? with
            | none => rfl
            | some parent =>
                have short := length_parent_lt empty found
                have same : ancestorsUpTo bound parent = ancestorsUpTo other parent :=
                  ih (by omega) (by omega)
                simp only [same]

/-- A path comes before the ancestors of its lexical parent. -/
theorem ancestors_eq {path parent : Path} (nonempty : path ≠ [])
    (found : path.parent? = some parent) : path.ancestors = path :: parent.ancestors := by
  have short := length_parent_lt nonempty found
  rw [ancestors, ancestorsUpTo, if_neg nonempty]
  simp only [found, ancestors]
  rw [ancestorsUpTo_eq short (Nat.lt_succ_self _)]

/-- The trunk of segments that end with a component comes before the ancestors of the trunk of
the segments before it. -/
theorem ancestors_trunk_concat {before : List Name} {name : Name}
    (separated : Separated (before ++ [name])) (ordinary : isFiller name = false) :
    (trunk (before ++ [name])).ancestors =
      trunk (before ++ [name]) :: (trunk before).ancestors :=
  ancestors_eq (mt (trunk_eq_nil_iff _).1 (by simp))
    (parent?_of_segments (segments_trunk_concat separated ordinary) ordinary
      (List.forall_mem_nil _))

end Path

end ChainLaunchers
