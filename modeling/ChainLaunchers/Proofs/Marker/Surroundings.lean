/-
Module: ChainLaunchers.Proofs.Marker.Surroundings
Purpose: What is found on a line that holds a marker and a name, by what stands before them and
  after them; and that the blanks at the ends of a line are of no consequence.
Trusted boundary: none
Main exports:
  Marker.IsHeadedBy, Marker.standard_isHeadedBy, Marker.name?_trim, Marker.name?_around
-/
import ChainLaunchers.Proofs.Generator.LineEnd
import ChainLaunchers.Proofs.Marker.Leftmost

namespace ChainLaunchers

/-- No blank byte is a word byte. -/
theorem Bytes.isWord_of_isBlank {byte : UInt8} (blank : isBlank byte = true) :
    isWord byte = false := by
  simp only [isBlank, Bool.or_eq_true, decide_eq_true_eq] at blank
  rcases blank with ((((rfl | rfl) | rfl) | rfl) | rfl) | rfl
  all_goals rfl

namespace Marker

/-- The first byte of the marker stands nowhere else in it, and is neither a word byte nor
blank. -/
structure IsHeadedBy (marker : Marker) (head : UInt8) : Prop where
  begins : ∃ tail, marker.bytes = head :: tail ∧ head ∉ tail
  wordless : Bytes.isWord head = false
  visible : Bytes.isBlank head = false

theorem standard_isHeadedBy : standard.IsHeadedBy 45 :=
  ⟨⟨Utf8.ofString "ac_name=", rfl, by decide⟩, rfl, rfl⟩

variable {marker : Marker} {head : UInt8}

/-- A line without one of the bytes of the marker carries no name. -/
theorem name?_eq_none_of_not_mem {byte : UInt8} (part : byte ∈ marker.bytes) {line : Bytes}
    (missing : byte ∉ line) : marker.name? line = none := by
  apply name?_eq_none_iff.2
  rintro position ⟨before, first, after, rfl, -⟩
  exact missing (List.mem_append_left _ (List.mem_append_right before part))

/-! ### Blanks at the ends -/

/-- Where the first byte of the marker is missing, nothing begins. -/
theorem name?_append_of_not_mem (headed : marker.IsHeadedBy head) {front : Bytes}
    (missing : head ∉ front) (line : Bytes) : marker.name? (front ++ line) = marker.name? line := by
  obtain ⟨tail, bytes, -⟩ := headed.begins
  induction front with
  | nil => rfl
  | cons byte front ih =>
      obtain ⟨other, missing⟩ := not_or.1 (mt List.mem_cons.2 missing)
      have notHere : ¬marker.NamedAt (byte :: (front ++ line)) 0 := by
        rintro ⟨before, word, after, whole, start, -⟩
        obtain rfl := List.length_eq_zero_iff.1 start
        rw [bytes] at whole
        exact other (List.cons.inj whole).1.symm
      rw [List.cons_append, name?, nameAt?_eq_none_iff.2 notHere]
      exact ih missing

/-- Trimming a line does not change the name on it. -/
theorem name?_trim (headed : marker.IsHeadedBy head) (line : Bytes) :
    marker.name? (Line.trim line) = marker.name? line := by
  obtain ⟨kept, trims⟩ := Line.exists_trims Bytes.isBlank line
  rw [Line.trim_eq_of_trims trims]
  obtain ⟨front, back, rfl, frontBlank, backBlank⟩ := trims.around
  have missing : head ∉ front := by
    intro mem
    have blank := frontBlank head mem
    rw [headed.visible] at blank
    cases blank
  rw [name?_append fun byte mem => Bytes.isWord_of_isBlank (backBlank byte mem),
    name?_append_of_not_mem headed missing]

/-! ### Before and after a name -/

/-- What lies behind the byte after a marker does not matter for the position of the marker. -/
theorem NamedAt.of_append {line more : Bytes} {position : Nat}
    (named : marker.NamedAt (line ++ more) position)
    (inside : position + marker.bytes.length < line.length) : marker.NamedAt line position := by
  obtain ⟨before, byte, after, whole, rfl, word⟩ := named
  have here : before ++ marker.bytes ++ [byte] <+: line := by
    refine List.prefix_of_prefix_length_le ⟨after, ?_⟩ (List.prefix_append line more) ?_
    · rw [whole, List.append_assoc, List.singleton_append]
    · simp only [List.length_append, List.length_singleton]
      omega
  obtain ⟨rest, rfl⟩ := here
  exact ⟨before, byte, rest, by simp, rfl, word⟩

/-- A marker that begins before another one ends before it, and so does the byte after it. -/
theorem NamedAt.add_length_lt (headed : marker.IsHeadedBy head) {before rest : Bytes}
    {position : Nat} (named : marker.NamedAt (before ++ (marker.bytes ++ rest)) position)
    (earlier : position < before.length) : position + marker.bytes.length < before.length := by
  obtain ⟨tail, bytes, once⟩ := headed.begins
  obtain ⟨front, byte, after, whole, rfl, word⟩ := named
  obtain ⟨between, rfl⟩ : front <+: before :=
    List.prefix_of_prefix_length_le ⟨marker.bytes ++ byte :: after, by
      rw [whole, List.append_assoc]⟩ (List.prefix_append before _) (Nat.le_of_lt earlier)
  cases between with
  | nil => simp at earlier
  | cons first between =>
      rw [bytes] at whole ⊢
      simp only [List.append_assoc, List.cons_append] at whole
      have following := (List.cons.inj (List.append_cancel_left whole)).2
      by_contra reaches
      -- The first byte of the second marker would stand inside the first one, or right after it.
      have inside : between ++ [head] <+: tail ++ [byte] := by
        have own : between ++ [head] <+: tail ++ byte :: after :=
          ⟨tail ++ rest, by rw [← following, List.append_assoc, List.singleton_append]⟩
        have other : tail ++ [byte] <+: tail ++ byte :: after :=
          ⟨after, by rw [List.append_assoc, List.singleton_append]⟩
        apply List.prefix_of_prefix_length_le own other
        simp only [List.length_append, List.length_cons, List.length_nil] at reaches ⊢
        omega
      have mem := inside.subset (List.mem_append_right between (List.mem_singleton_self head))
      rcases List.mem_append.1 mem with again | same
      · exact once again
      · obtain rfl := List.mem_singleton.1 same
        rw [headed.wordless] at word
        cases word

/-- A marker that counts before another one lies in the text before it altogether. -/
theorem NamedAt.in_before (headed : marker.IsHeadedBy head) {before rest : Bytes}
    {position : Nat} (named : marker.NamedAt (before ++ (marker.bytes ++ rest)) position)
    (earlier : position < before.length) : marker.NamedAt before position :=
  named.of_append (named.add_length_lt headed earlier)

/-- If nothing is found before a marker and a name, the line is named there. -/
theorem names_of_unnamed_before (headed : marker.IsHeadedBy head) {before name after : Bytes}
    (unnamed : marker.name? before = none) (chain : IsChainName name)
    (ends : ∀ byte ∈ after.head?, Bytes.isWord byte = false) :
    marker.Names (before ++ (marker.bytes ++ (name ++ after))) before name after := by
  refine ⟨by simp, chain, ends, ?_⟩
  intro position named
  by_contra earlier
  exact name?_eq_none_iff.1 unnamed position (named.in_before headed (Nat.lt_of_not_le earlier))

/-- What is found before a marker and a name stays what is found. -/
theorem Names.append_marker (headed : marker.IsHeadedBy head) {before front name back : Bytes}
    (names : marker.Names before front name back) (rest : Bytes) :
    marker.Names (before ++ (marker.bytes ++ rest)) front name
      (back ++ (marker.bytes ++ rest)) := by
  refine ⟨?_, names.chain, ?_, ?_⟩
  · rw [← List.append_assoc _ back, ← names.whole]
  · intro byte first
    cases back with
    | nil =>
        obtain ⟨tail, bytes, -⟩ := headed.begins
        rw [bytes] at first
        obtain rfl := Option.some.inj first
        exact headed.wordless
    | cons next more => exact names.ends byte first
  · intro position named
    by_contra earlier
    have within : front.length ≤ before.length := by
      rw [names.whole, List.append_assoc, List.append_assoc]
      exact (List.prefix_append front _).length_le
    have inBefore := named.in_before headed (by omega)
    exact earlier (names.first position inBefore)

/-- What is found on a line that holds a marker and a name: the name that stands before them, if
there is one, and else the name with the word bytes that follow it. -/
theorem name?_around (headed : marker.IsHeadedBy head) {name : Bytes} (chain : IsChainName name)
    (before after : Bytes) :
    marker.name? (before ++ (marker.bytes ++ (name ++ after))) =
      (marker.name? before).or (some (name ++ after.takeWhile Bytes.isWord)) := by
  cases found : marker.name? before with
  | some other =>
      obtain ⟨front, back, names⟩ := exists_names_of_name? found
      exact name?_of_names (names.append_marker headed _)
  | none =>
      have longer : IsChainName (name ++ after.takeWhile Bytes.isWord) := by
        refine ⟨List.append_ne_nil_of_left_ne_nil chain.nonempty _, ?_⟩
        intro byte mem
        exact (List.mem_append.1 mem).elim (chain.words byte) List.mem_takeWhile_imp
      have names := names_of_unnamed_before headed found longer
        (Line.stops_dropWhile Bytes.isWord after)
      rw [List.append_assoc name, List.takeWhile_append_dropWhile] at names
      exact name?_of_names names

end Marker

end ChainLaunchers
