/-
Module: ChainLaunchers.Proofs.Marker.Leftmost
Purpose: The name on a line is the whole run of word bytes at the first position where the line
  carries the marker directly followed by a word byte, and there is none without such a position.
Trusted boundary: none
Main exports:
  Marker.NamedAt, Marker.Names, Marker.name?_eq_some_iff, Marker.name?_eq_none_iff,
  Marker.Names.unique, Marker.FindsFirst, Marker.finds_first_name
-/
import ChainLaunchers.Marker
import ChainLaunchers.Proofs.Generator.FileName
import ChainLaunchers.Proofs.Line.Trim

namespace ChainLaunchers

namespace Marker

variable {marker : Marker}

/-! ### Positions -/

/-- At this position, the line carries the marker directly followed by a word byte. -/
def NamedAt (marker : Marker) (line : Bytes) (position : Nat) : Prop :=
  ∃ before byte after, line = before ++ marker.bytes ++ byte :: after ∧
    before.length = position ∧ Bytes.isWord byte = true

theorem namedAt_zero_iff {line : Bytes} :
    marker.NamedAt line 0 ↔
      ∃ byte after, line = marker.bytes ++ byte :: after ∧ Bytes.isWord byte = true := by
  constructor
  · rintro ⟨before, byte, after, whole, start, word⟩
    obtain rfl := List.length_eq_zero_iff.1 start
    exact ⟨byte, after, whole, word⟩
  · rintro ⟨byte, after, whole, word⟩
    exact ⟨[], byte, after, whole, rfl, word⟩

theorem not_namedAt_nil (position : Nat) : ¬marker.NamedAt [] position := by
  rintro ⟨before, byte, after, whole, -⟩
  have length := congrArg List.length whole
  simp at length

/-- The positions of a line are those of its rest, moved by one. -/
theorem namedAt_cons_succ_iff {first : UInt8} {line : Bytes} {position : Nat} :
    marker.NamedAt (first :: line) (position + 1) ↔ marker.NamedAt line position := by
  constructor
  · rintro ⟨before, byte, after, whole, start, word⟩
    cases before with
    | nil => cases start
    | cons other before =>
        obtain ⟨-, whole⟩ := List.cons.inj whole
        exact ⟨before, byte, after, whole, Nat.succ.inj start, word⟩
  · rintro ⟨before, byte, after, rfl, rfl, word⟩
    exact ⟨first :: before, byte, after, rfl, rfl, word⟩

/-! ### The beginning of a line -/

/-- A run of word bytes is what `takeWhile` takes, if it ends there. -/
theorem takeWhile_isWord_of_run {name after : Bytes}
    (words : ∀ byte ∈ name, Bytes.isWord byte = true)
    (ends : ∀ byte ∈ after.head?, Bytes.isWord byte = false) :
    (name ++ after).takeWhile Bytes.isWord = name := by
  rw [List.takeWhile_append_of_pos words]
  cases after with
  | nil => exact List.append_nil name
  | cons byte rest =>
      rw [List.takeWhile_cons_of_neg (by simp [ends byte rfl]), List.append_nil]

theorem nameAt?_eq_some_iff {line name : Bytes} :
    marker.nameAt? line = some name ↔
      ∃ after, line = marker.bytes ++ name ++ after ∧ IsChainName name ∧
        ∀ byte ∈ after.head?, Bytes.isWord byte = false := by
  constructor
  · intro found
    have chain := isChainName_of_nameAt? found
    unfold nameAt? at found
    split at found
    · rename_i begins
      obtain ⟨rest, rfl⟩ := List.isPrefixOf_iff_prefix.1 begins
      rw [List.drop_left] at found
      split at found
      · cases found
      · obtain rfl := Option.some.inj found
        refine ⟨rest.dropWhile Bytes.isWord, ?_, chain, Line.stops_dropWhile Bytes.isWord rest⟩
        rw [List.append_assoc, List.takeWhile_append_dropWhile]
    · cases found
  · rintro ⟨after, rfl, chain, ends⟩
    have begins : marker.bytes.isPrefixOf (marker.bytes ++ name ++ after) = true := by
      rw [List.append_assoc]
      exact List.isPrefixOf_iff_prefix.2 (List.prefix_append _ _)
    rw [nameAt?, if_pos begins, List.append_assoc, List.drop_left,
      takeWhile_isWord_of_run chain.words ends]
    split
    · exact absurd rfl chain.nonempty
    · rfl

theorem nameAt?_eq_none_iff {line : Bytes} :
    marker.nameAt? line = none ↔ ¬marker.NamedAt line 0 := by
  rw [namedAt_zero_iff]
  constructor
  · rintro nothing ⟨byte, after, rfl, word⟩
    -- The run that the word byte begins would be a name.
    have begins : marker.bytes.isPrefixOf (marker.bytes ++ byte :: after) = true :=
      List.isPrefixOf_iff_prefix.2 (List.prefix_append _ _)
    rw [nameAt?, if_pos begins, List.drop_left, List.takeWhile_cons_of_pos word] at nothing
    cases nothing
  · intro unnamed
    by_contra found
    obtain ⟨name, named⟩ := Option.ne_none_iff_exists'.1 found
    obtain ⟨after, rfl, chain, -⟩ := nameAt?_eq_some_iff.1 named
    obtain ⟨byte, rest, rfl⟩ := List.exists_cons_of_ne_nil chain.nonempty
    apply unnamed
    exact ⟨byte, rest ++ after, by simp, chain.words byte List.mem_cons_self⟩

/-! ### The first position -/

/-- The line is made of `before`, the marker, the name and `after`.  The name is a whole run of
word bytes, and the marker in front of it stands at the first position that counts. -/
structure Names (marker : Marker) (line before name after : Bytes) : Prop where
  whole : line = before ++ marker.bytes ++ name ++ after
  chain : IsChainName name
  ends : ∀ byte ∈ after.head?, Bytes.isWord byte = false
  first : ∀ position, marker.NamedAt line position → before.length ≤ position

namespace Names

variable {line before name after : Bytes}

theorem namedAt (names : marker.Names line before name after) :
    marker.NamedAt line before.length := by
  obtain ⟨byte, rest, rfl⟩ := List.exists_cons_of_ne_nil names.chain.nonempty
  refine ⟨before, byte, rest ++ after, ?_, rfl, names.chain.words byte List.mem_cons_self⟩
  rw [names.whole, List.append_assoc _ (byte :: rest)]
  rfl

/-- A line that is named at its beginning has nothing in front of the marker. -/
theorem of_nameAt? (found : marker.nameAt? line = some name) :
    ∃ after, marker.Names line [] name after := by
  obtain ⟨after, whole, chain, ends⟩ := nameAt?_eq_some_iff.1 found
  exact ⟨after, whole, chain, ends, fun _ _ => Nat.zero_le _⟩

theorem cons {first : UInt8} (names : marker.Names line before name after)
    (unnamed : ¬marker.NamedAt (first :: line) 0) :
    marker.Names (first :: line) (first :: before) name after := by
  refine ⟨by simp [names.whole], names.chain, names.ends, ?_⟩
  intro position named
  cases position with
  | zero => exact absurd named unnamed
  | succ position =>
      exact Nat.succ_le_succ (names.first position (namedAt_cons_succ_iff.1 named))

theorem tail {first : UInt8} (names : marker.Names (first :: line) (first :: before) name after) :
    marker.Names line before name after := by
  refine ⟨(List.cons.inj names.whole).2, names.chain, names.ends, ?_⟩
  intro position named
  exact Nat.le_of_succ_le_succ (names.first (position + 1) (namedAt_cons_succ_iff.2 named))

/-- A line is named in one way at most. -/
theorem unique {before' name' after' : Bytes} (names : marker.Names line before name after)
    (names' : marker.Names line before' name' after') :
    before = before' ∧ name = name' ∧ after = after' := by
  have start : before.length = before'.length :=
    Nat.le_antisymm (names.first _ names'.namedAt) (names'.first _ names.namedAt)
  have whole := names.whole.symm.trans names'.whole
  simp only [List.append_assoc] at whole
  obtain ⟨sameBefore, rest⟩ := List.append_inj whole start
  have rest' := List.append_cancel_left rest
  have sameName : name = name' := by
    rw [← takeWhile_isWord_of_run names.chain.words names.ends, rest',
      takeWhile_isWord_of_run names'.chain.words names'.ends]
  rw [sameName] at rest'
  exact ⟨sameBefore, sameName, List.append_cancel_left rest'⟩

end Names

/-- A name that is found stands at the first position. -/
theorem exists_names_of_name? {line name : Bytes} (found : marker.name? line = some name) :
    ∃ before after, marker.Names line before name after := by
  induction line with
  | nil => cases found
  | cons byte rest ih =>
      rw [name?] at found
      split at found
      · rename_i here
        obtain ⟨after, names⟩ := Names.of_nameAt? (here.trans found)
        exact ⟨[], after, names⟩
      · rename_i notHere
        obtain ⟨before, after, names⟩ := ih found
        exact ⟨byte :: before, after, names.cons (nameAt?_eq_none_iff.1 notHere)⟩

/-- The name at the first position is found. -/
theorem name?_of_names {line before name after : Bytes}
    (names : marker.Names line before name after) : marker.name? line = some name := by
  induction before generalizing line with
  | nil =>
      have here := nameAt?_eq_some_iff.2 ⟨after, names.whole, names.chain, names.ends⟩
      cases line with
      | nil => exact absurd names.namedAt (not_namedAt_nil _)
      | cons byte rest => rw [name?, here]
  | cons first before ih =>
      obtain rfl := names.whole
      have notHere : ¬marker.NamedAt (first :: (before ++ marker.bytes ++ name ++ after)) 0 := by
        intro named
        exact Nat.not_succ_le_zero _ (names.first 0 named)
      simp only [List.cons_append] at names ⊢
      rw [name?, nameAt?_eq_none_iff.2 notHere]
      exact ih names.tail

theorem name?_eq_some_iff {line name : Bytes} :
    marker.name? line = some name ↔ ∃ before after, marker.Names line before name after := by
  constructor
  · exact exists_names_of_name?
  · rintro ⟨before, after, names⟩
    exact name?_of_names names

theorem name?_eq_none_iff {line : Bytes} :
    marker.name? line = none ↔ ∀ position, ¬marker.NamedAt line position := by
  induction line with
  | nil => exact iff_of_true rfl not_namedAt_nil
  | cons byte rest ih =>
      rw [name?]
      constructor
      · intro nothing position named
        split at nothing
        · cases nothing
        · rename_i notHere
          cases position with
          | zero => exact nameAt?_eq_none_iff.1 notHere named
          | succ position => exact ih.1 nothing position (namedAt_cons_succ_iff.1 named)
      · intro unnamed
        rw [nameAt?_eq_none_iff.2 (unnamed 0)]
        apply ih.2
        intro position named
        exact unnamed (position + 1) (namedAt_cons_succ_iff.2 named)

/-! ### Every marker -/

/-- The name that a marker finds on a line is the one at the first position that counts. -/
structure FindsFirst (marker : Marker) (line : Bytes) : Prop where
  found : ∀ name, marker.name? line = some name ↔
    ∃ before after, marker.Names line before name after
  missing : marker.name? line = none ↔ ∀ position, ¬marker.NamedAt line position
  unique : ∀ before name after before' name' after', marker.Names line before name after →
    marker.Names line before' name' after' → before = before' ∧ name = name' ∧ after = after'

theorem findsFirst (marker : Marker) (line : Bytes) : marker.FindsFirst line := by
  constructor
  · intro name
    exact name?_eq_some_iff
  · exact name?_eq_none_iff
  · intro before name after before' name' after' names names'
    exact names.unique names'

/-- Every text but the empty one makes a marker that is searched for literally.  It finds the
whole run of word bytes at the first position where the text is directly followed by one, and so
does the marker of the usual launch lines. -/
theorem finds_first_name {text : String} (nonempty : text ≠ "") :
    (∃ marker, ofString? text = some marker ∧ marker.bytes = Utf8.ofString text ∧
        ∀ line, marker.FindsFirst line) ∧
      standard.bytes = Utf8.ofString "-ac_name=" ∧ ∀ line, standard.FindsFirst line := by
  refine ⟨⟨⟨text, nonempty⟩, ?_, rfl, findsFirst _⟩, rfl, findsFirst _⟩
  exact ofString?_text ⟨text, nonempty⟩

/-- The first occurrence is passed over because no word byte follows it, and the next one, which
overlaps it, is the one that counts. -/
theorem finds_first_name_where_occurrences_overlap : "==" ≠ "" ∧
    ∃ marker, ofString? "==" = some marker ∧
      ∃ before after, marker.Names (Utf8.ofString "-===A7-") before (Utf8.ofString "A7") after := by
  refine ⟨by decide, ?_⟩
  obtain ⟨⟨marker, made, -, finds⟩, -⟩ := finds_first_name (by decide : "==" ≠ "")
  refine ⟨marker, made, ?_⟩
  obtain rfl : ⟨"==", by decide⟩ = marker := by simpa [ofString?] using made
  exact ((finds _).found _).1 (by decide)

end Marker

end ChainLaunchers
