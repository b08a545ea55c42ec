/-
Module: ChainLaunchers.Proofs.Path.Segments
Purpose: Cutting and joining at a separator are inverse to each other, and what joining a name
  to a directory path does to its segments.
Trusted boundary: none
Main exports:
  Bytes.splitOn_joinWith, Path.segments_joinWith, Path.inside, Path.segments_join,
  Path.isAbsolute_append, Path.components, Path.prefix_join
-/
import ChainLaunchers.Tree.Change

namespace ChainLaunchers

namespace Bytes

/-! ### Cutting and joining -/

/-- No stretch of a split holds the separator. -/
theorem not_mem_of_mem_splitOn {separator : UInt8} {text piece : Bytes}
    (mem : piece ∈ splitOn separator text) : separator ∉ piece := by
  induction text generalizing piece with
  | nil => simp_all [splitOn]
  | cons byte rest ih =>
      by_cases same : byte = separator
      · rw [splitOn, if_pos same] at mem
        rcases List.mem_cons.1 mem with rfl | later
        · simp
        · exact ih later
      · rw [splitOn, if_neg same] at mem
        cases pieces : splitOn separator rest with
        | nil => exact absurd pieces (splitOn_ne_nil separator rest)
        | cons first others =>
            simp only [pieces, List.mem_cons] at mem ih
            rcases mem with rfl | later
            · simp only [List.mem_cons, not_or]
              exact ⟨fun eq => same eq.symm, ih (Or.inl rfl)⟩
            · exact ih (Or.inr later)

theorem splitOn_of_not_mem {separator : UInt8} {text : Bytes} (absent : separator ∉ text) :
    splitOn separator text = [text] := by
  induction text with
  | nil => rfl
  | cons byte rest ih =>
      simp only [List.mem_cons, not_or] at absent
      rw [splitOn, if_neg (Ne.symm absent.1), ih absent.2]

/-- A split of two texts with a separator between them is made of the splits of the two. -/
theorem splitOn_append_separator (separator : UInt8) (left right : Bytes) :
    splitOn separator (left ++ separator :: right) =
      splitOn separator left ++ splitOn separator right := by
  induction left with
  | nil => simp [splitOn]
  | cons byte rest ih =>
      by_cases same : byte = separator
      · simp [splitOn, same, ih]
      · cases pieces : splitOn separator rest with
        | nil => exact absurd pieces (splitOn_ne_nil separator rest)
        | cons piece others => simp [splitOn, same, ih, pieces]

theorem joinWith_append (separator : UInt8) {left right : List Bytes} (hleft : left ≠ [])
    (hright : right ≠ []) :
    joinWith separator (left ++ right) =
      joinWith separator left ++ separator :: joinWith separator right := by
  induction left with
  | nil => exact absurd rfl hleft
  | cons piece pieces ih =>
      cases pieces with
      | nil =>
          cases right with
          | nil => exact absurd rfl hright
          | cons next others => rfl
      | cons next others =>
          have tail := ih (by simp)
          simp only [List.cons_append] at tail
          simp only [List.cons_append, joinWith, tail, List.append_assoc]

/-- Splitting undoes joining, as long as no piece holds the separator. -/
theorem splitOn_joinWith {separator : UInt8} {pieces : List Bytes} (nonempty : pieces ≠ [])
    (clean : ∀ piece ∈ pieces, separator ∉ piece) :
    splitOn separator (joinWith separator pieces) = pieces := by
  induction pieces with
  | nil => exact absurd rfl nonempty
  | cons piece others ih =>
      have first := splitOn_of_not_mem (clean piece (by simp))
      cases others with
      | nil => exact first
      | cons next more =>
          rw [joinWith, splitOn_append_separator, first,
            ih (by simp) fun piece mem => clean piece (by simp [mem])]
          rfl

end Bytes

namespace Path

/-! ### Segments -/

theorem segments_ne_nil (path : Path) : path.segments ≠ [] := Bytes.splitOn_ne_nil separator path

/-- The pieces of a path between its separators hold no separator themselves. -/
def Separated (segments : List Name) : Prop := ∀ segment ∈ segments, separator ∉ segment

theorem separated_segments (path : Path) : Separated path.segments :=
  fun _ mem => Bytes.not_mem_of_mem_splitOn mem

theorem Separated.append_left {first second : List Name} (separated : Separated (first ++ second)) :
    Separated first :=
  fun segment mem => separated segment (List.mem_append_left second mem)

theorem joinWith_segments (path : Path) : Bytes.joinWith separator path.segments = path :=
  Bytes.joinWith_splitOn separator path

theorem segments_joinWith {segments : List Name} (nonempty : segments ≠ [])
    (separated : Separated segments) :
    Path.segments (Bytes.joinWith separator segments) = segments :=
  Bytes.splitOn_joinWith nonempty separated

/-- What stands before a name inside a directory path makes it absolute or not. -/
theorem isAbsolute_append {head tail : Path} (nonempty : head ≠ []) :
    isAbsolute (head ++ tail) = isAbsolute head := by
  cases head with
  | nil => exact absurd rfl nonempty
  | cons byte rest => rfl

/-! ### Names inside a directory -/

/-- A name that stands for an entry of a directory: neither empty nor one of the two special
names, and without a separator. -/
structure IsEntryName (name : Name) : Prop where
  ordinary : isSpecial name = false
  separated : separator ∉ name

theorem IsEntryName.ne_nil {name : Name} (entry : IsEntryName name) : name ≠ [] := by
  rintro rfl
  exact absurd entry.ordinary (by decide)

theorem IsEntryName.ne_above {name : Name} (entry : IsEntryName name) : name ≠ above := by
  rintro rfl
  exact absurd entry.ordinary (by decide)

theorem IsEntryName.not_isFiller {name : Name} (entry : IsEntryName name) :
    isFiller name = false := by
  have ordinary := entry.ordinary
  simp only [isSpecial, isFiller, Bool.or_eq_false_iff] at ordinary ⊢
  exact ordinary.1

theorem IsEntryName.not_isAbsolute {name : Name} (entry : IsEntryName name) :
    isAbsolute name = false := by
  cases name with
  | nil => rfl
  | cons byte rest =>
      have different : byte ≠ separator := fun same => entry.separated (by simp [same])
      simpa [isAbsolute] using different

/-- The segments in front of a name that is joined to a directory path. -/
def inside (directory : Path) : List Name :=
  if directory = [] then []
  else if directory.getLast? = some separator then directory.segments.dropLast
  else directory.segments

/-- A trailing separator leaves an empty last segment and nothing else. -/
theorem segments_append_separator (path : Path) :
    Path.segments (path ++ [separator]) = path.segments ++ [[]] := by
  simpa [segments, Bytes.splitOn] using Bytes.splitOn_append_separator separator path []

/-- Joining never discards the directory path. -/
theorem prefix_join {name : Name} (entry : IsEntryName name) (directory : Path) :
    directory <+: directory.join name := by
  rw [join, if_neg (by simp [entry.not_isAbsolute])]
  split
  · exact List.prefix_append _ _
  · exact List.prefix_append _ _

/-- A joined path has the name as its last segment. -/
theorem segments_join {name : Name} (entry : IsEntryName name) (directory : Path) :
    (directory.join name).segments = directory.inside ++ [name] := by
  rw [join, if_neg (by simp [entry.not_isAbsolute])]
  have alone : Path.segments name = [name] := Bytes.splitOn_of_not_mem entry.separated
  by_cases empty : directory = []
  · simp [inside, empty, alone]
  · by_cases trailing : directory.getLast? = some separator
    · obtain ⟨stem, rfl⟩ := List.getLast?_eq_some_iff.1 trailing
      rw [if_pos (Or.inr trailing), inside, if_neg empty, if_pos trailing,
        segments_append_separator, List.dropLast_concat, List.append_assoc,
        List.singleton_append, ← alone]
      exact Bytes.splitOn_append_separator separator stem name
    · rw [if_neg (by simp [empty, trailing]), inside, if_neg empty, if_neg trailing, ← alone]
      exact Bytes.splitOn_append_separator separator directory name

theorem separated_inside (directory : Path) : Separated directory.inside := by
  unfold inside
  split
  · intro segment mem
    simp at mem
  · split
    · intro segment mem
      exact separated_segments directory segment (List.dropLast_subset _ mem)
    · exact separated_segments directory

/-- Different names give different paths. -/
theorem join_injective {first second : Name} (hfirst : IsEntryName first)
    (hsecond : IsEntryName second) {directory : Path}
    (same : directory.join first = directory.join second) : first = second := by
  have segments := congrArg Path.segments same
  rw [segments_join hfirst, segments_join hsecond] at segments
  simpa using segments

/-! ### Components -/

/-- The segments that lead somewhere else than where they start. -/
def components (segments : List Name) : List Name :=
  segments.filter fun segment => !isFiller segment

theorem components_concat {name : Name} (ordinary : isFiller name = false) (before : List Name) :
    components (before ++ [name]) = components before ++ [name] := by
  simp [components, ordinary]

theorem components_concat_filler {filler : Name} (isFiller : isFiller filler = true)
    (before : List Name) : components (before ++ [filler]) = components before := by
  simp [components, isFiller]

/-- Before a joined name stand the components of the directory path. -/
theorem components_inside (directory : Path) :
    components directory.inside = components directory.segments := by
  unfold inside
  split
  · rename_i empty
    subst empty
    rfl
  · split
    · rename_i trailing
      obtain ⟨stem, rfl⟩ := List.getLast?_eq_some_iff.1 trailing
      rw [segments_append_separator, List.dropLast_concat,
        components_concat_filler (by decide)]
    · rfl

end Path

end ChainLaunchers
