/-
Module: ChainLaunchers.Proofs.Generator.Namesake
Purpose: When a launcher starts the chain that it is named after: the rules leave the marker and
  the name alone, and what they make of the text around them decides.
Trusted boundary: none
Main exports:
  Rule.Spares, Rule.applyAll_around, Rule.not_mem_applyAll, Rule.head?_applyAll,
  Generator.Renames, Generator.launcher_names_chain_iff
-/
import ChainLaunchers.Proofs.Literal.Separation
import ChainLaunchers.Proofs.Marker.Surroundings

namespace ChainLaunchers

namespace Rule

/-! ### Rules that leave names alone -/

/-- No occurrence of the literal can share a byte with the marker or with a name behind it. -/
structure Spares (rule : Rule) (marker : Marker) : Prop where
  markerOutside : ¬Literal.BeginsInside (Utf8.ofString rule.pattern) marker.bytes
  patternOutside : ¬Literal.BeginsInside marker.bytes (Utf8.ofString rule.pattern)
  wordless : (Utf8.ofString rule.pattern).head?.any Bytes.isWord = false

instance (rule : Rule) (marker : Marker) : Decidable (rule.Spares marker) :=
  decidable_of_iff
    (¬Literal.BeginsInside (Utf8.ofString rule.pattern) marker.bytes ∧
      ¬Literal.BeginsInside marker.bytes (Utf8.ofString rule.pattern) ∧
      (Utf8.ofString rule.pattern).head?.any Bytes.isWord = false)
    ⟨fun ⟨first, second, third⟩ => ⟨first, second, third⟩,
      fun spares => ⟨spares.markerOutside, spares.patternOutside, spares.wordless⟩⟩

theorem standard_spares : ∀ rule ∈ standard, rule.Spares Marker.standard := by decide

section

variable {rule : Rule} {marker : Marker} (spares : rule.Spares marker)

include spares

theorem Spares.occurs (occurs : marker.bytes ≠ []) : Utf8.ofString rule.pattern ≠ [] := by
  intro empty
  apply spares.patternOutside
  rw [empty]
  exact ⟨marker.bytes, (List.mem_tails _ _).2 List.suffix_rfl, occurs, Or.inr List.nil_prefix⟩

/-- The marker with a name behind it cannot begin inside the literal. -/
theorem Spares.core_outside (name : Bytes) :
    ¬Literal.BeginsInside (Utf8.ofString rule.pattern) (marker.bytes ++ name) := by
  rintro ⟨rest, mem, nonempty, inside⟩
  apply spares.markerOutside
  refine ⟨rest, mem, nonempty, ?_⟩
  rcases inside with shorter | longer
  · exact List.prefix_or_prefix_of_prefix shorter (List.prefix_append marker.bytes name)
  · exact Or.inr ((List.prefix_append marker.bytes name).trans longer)

/-- The literal cannot begin inside the marker with a name behind it. -/
theorem Spares.outside_core (occurs : marker.bytes ≠ []) {name : Bytes}
    (words : ∀ byte ∈ name, Bytes.isWord byte = true) :
    ¬Literal.BeginsInside (marker.bytes ++ name) (Utf8.ofString rule.pattern) := by
  rintro ⟨rest, mem, nonempty, inside⟩
  obtain ⟨byte, more, rfl⟩ := List.exists_cons_of_ne_nil nonempty
  have notInName : byte ∉ name := by
    intro inName
    obtain ⟨first, others, pattern⟩ := List.exists_cons_of_ne_nil (spares.occurs occurs)
    have same : byte = first := by
      rw [pattern] at inside
      rcases inside with shorter | longer
      · exact (List.cons_prefix_cons.1 shorter).1
      · exact (List.cons_prefix_cons.1 longer).1.symm
    have wordless := spares.wordless
    rw [pattern, List.head?_cons, Option.any_some, ← same, words byte inName] at wordless
    cases wordless
  rw [List.mem_tails] at mem
  rcases List.suffix_or_suffix_of_suffix mem (List.suffix_append marker.bytes name) with
    inName | aroundName
  · exact notInName (inName.subset List.mem_cons_self)
  · -- The rest begins in the marker, with a part of it that the literal would agree with.
    obtain ⟨front, whole⟩ := aroundName
    have begins : front <+: byte :: more := ⟨name, whole⟩
    apply spares.patternOutside
    refine ⟨front, ?_, ?_, ?_⟩
    · rw [← whole] at mem
      exact (List.mem_tails _ _).2 (List.suffix_append_self_iff.1 mem)
    · rintro rfl
      apply notInName
      rw [← List.nil_append name, whole]
      exact List.mem_cons_self
    · rcases inside with shorter | longer
      · exact Or.inl (begins.trans shorter)
      · exact List.prefix_or_prefix_of_prefix begins longer

/-- The marker and the name stay as they are, and the text around them is rewritten by itself. -/
theorem Spares.apply_around (occurs : marker.bytes ≠ []) {name : Bytes}
    (words : ∀ byte ∈ name, Bytes.isWord byte = true) (before after : Bytes) :
    rule.apply (before ++ (marker.bytes ++ (name ++ after))) =
      rule.apply before ++ (marker.bytes ++ (name ++ rule.apply after)) := by
  have around := Literal.replaceAll_around (spares.occurs occurs) (spares.core_outside name)
    (spares.outside_core occurs words) before after (Utf8.ofString rule.replacement)
  simpa only [apply, List.append_assoc] using around

end

theorem applyAll_around {rules : List Rule} {marker : Marker}
    (spares : ∀ rule ∈ rules, rule.Spares marker) (occurs : marker.bytes ≠ []) {name : Bytes}
    (words : ∀ byte ∈ name, Bytes.isWord byte = true) (before after : Bytes) :
    applyAll rules (before ++ (marker.bytes ++ (name ++ after))) =
      applyAll rules before ++ (marker.bytes ++ (name ++ applyAll rules after)) := by
  induction rules generalizing before after with
  | nil => rfl
  | cons rule rules ih =>
      simp only [applyAll_cons]
      rw [(spares rule List.mem_cons_self).apply_around occurs words]
      apply ih
      intro other mem
      exact spares other (List.mem_cons_of_mem rule mem)

/-! ### Bytes that rules do not touch -/

/-- A byte gets into a line through a replacement only. -/
theorem not_mem_applyAll {rules : List Rule} {byte : UInt8}
    (missing : ∀ rule ∈ rules, byte ∉ Utf8.ofString rule.replacement) {line : Bytes}
    (absent : byte ∉ line) : byte ∉ applyAll rules line := by
  apply applyAll_induction (byte ∉ ·) absent
  intro rule mem text absent present
  rcases Literal.mem_of_mem_replaceAll present with original | inserted
  · exact absent original
  · exact missing rule mem inserted

/-- The first byte of a line stays where no literal begins with it. -/
theorem head?_applyAll {rules : List Rule} {line : Bytes}
    (unmet : ∀ rule ∈ rules, (Utf8.ofString rule.pattern).head? ≠ line.head?) :
    (applyAll rules line).head? = line.head? := by
  apply applyAll_induction (fun text => text.head? = line.head?) rfl
  intro rule mem text same
  rw [← same] at unmet ⊢
  exact Literal.head?_replaceAll (unmet rule mem) _

end Rule

namespace Generator

/-! ### The name on a launcher -/

/-- What becomes of a line by its parts: the text before the marker, and the text after the
name. -/
structure Renames (launcher : Launcher) (before after : Bytes) : Prop where
  /-- The marker and the name stay, and what stands around them is rewritten by itself. -/
  rewritten : launcher.content = Line.trim (Rule.applyAll Rule.standard before ++
    Marker.standard.bytes ++ launcher.chain ++ Rule.applyAll Rule.standard after)
  /-- The launcher carries its own name exactly if the rewritten text before the marker carries
  the same name, or it carries none and the rewritten text after the name does not go on with
  it. -/
  own : Marker.standard.name? launcher.content = some launcher.chain ↔
    Marker.standard.name? (Rule.applyAll Rule.standard before) = some launcher.chain ∨
      Marker.standard.name? (Rule.applyAll Rule.standard before) = none ∧
        ∀ byte ∈ (Rule.applyAll Rule.standard after).head?, Bytes.isWord byte = false
  /-- So it does wherever no underscore stands before the marker, and no literal of the rules
  begins with the byte after the name. -/
  usual : 95 ∉ before →
    (∀ rule ∈ Rule.standard, (Utf8.ofString rule.pattern).head? ≠ after.head?) →
      Marker.standard.name? launcher.content = some launcher.chain

/-- A name is longer by the word bytes that follow it. -/
theorem append_takeWhile_eq_self_iff {name after : Bytes} :
    name ++ after.takeWhile Bytes.isWord = name ↔
      ∀ byte ∈ after.head?, Bytes.isWord byte = false := by
  rw [List.append_right_eq_self]
  cases after with
  | nil => simp
  | cons byte rest => simp [List.takeWhile_cons]

theorem launcher?_of_name? {generator : Generator} {line chain : Bytes}
    (named : generator.marker.name? line = some chain) :
    generator.launcher? line =
      some { chain
             fileName := generator.fileName chain
             content := Line.trim (Rule.applyAll generator.rules line) } := by
  rw [launcher?, named]
  rfl

theorem renames_of_names {line before after : Bytes} {launcher : Launcher}
    (found : standard.launcher? line = some launcher)
    (names : Marker.standard.Names line before launcher.chain after) :
    Renames launcher before after := by
  have occurs : Marker.standard.bytes ≠ [] := by decide
  obtain ⟨chain, -, made⟩ := Option.map_eq_some_iff.1 found
  have around := Rule.applyAll_around Rule.standard_spares occurs names.chain.words before after
  have rewritten : launcher.content = Line.trim (Rule.applyAll Rule.standard before ++
      (Marker.standard.bytes ++ (launcher.chain ++ Rule.applyAll Rule.standard after))) := by
    have whole := names.whole
    rw [List.append_assoc, List.append_assoc] at whole
    rw [← around, ← whole, ← made]
    rfl
  have own : Marker.standard.name? launcher.content = some launcher.chain ↔
      Marker.standard.name? (Rule.applyAll Rule.standard before) = some launcher.chain ∨
        Marker.standard.name? (Rule.applyAll Rule.standard before) = none ∧
          ∀ byte ∈ (Rule.applyAll Rule.standard after).head?, Bytes.isWord byte = false := by
    rw [rewritten, Marker.name?_trim Marker.standard_isHeadedBy,
      Marker.name?_around Marker.standard_isHeadedBy names.chain, Option.or_eq_some_iff,
      Option.some_inj, append_takeWhile_eq_self_iff]
  refine ⟨?_, own, ?_⟩
  · rw [rewritten, List.append_assoc, List.append_assoc]
  · intro absent unmet
    apply own.2
    right
    constructor
    · have missing : 95 ∉ Rule.applyAll Rule.standard before :=
        Rule.not_mem_applyAll (by decide) absent
      exact Marker.name?_eq_none_of_not_mem (by decide) missing
    · rw [Rule.head?_applyAll unmet]
      exact names.ends

/-- Which launchers carry the name of the chain that they are named after. -/
theorem launcher_names_chain_iff {line : Bytes} {launcher : Launcher}
    (found : standard.launcher? line = some launcher) :
    ∃ before after, Marker.standard.Names line before launcher.chain after ∧
      Renames launcher before after := by
  obtain ⟨chain, named, made⟩ := Option.map_eq_some_iff.1 found
  obtain ⟨before, after, names⟩ := Marker.exists_names_of_name? named
  obtain rfl : launcher.chain = chain := by rw [← made]
  exact ⟨before, after, names, renames_of_names found names⟩

/-- A usual launch line, with literals of the rules on both sides of the name. -/
theorem launcher_names_chain_of_usual_line :
    ∃ launcher,
      standard.launcher? (Utf8.ofString "./komodod -pubkey=$pubkey -ac_name=BEER &") =
        some launcher ∧
      Marker.standard.name? launcher.content = some launcher.chain := by
  have whole : Utf8.ofString "./komodod -pubkey=$pubkey -ac_name=BEER &" =
      Utf8.ofString "./komodod -pubkey=$pubkey " ++
        (Marker.standard.bytes ++ (Utf8.ofString "BEER" ++ Utf8.ofString " &")) := by decide
  have parts : Marker.standard.Names (Utf8.ofString "./komodod -pubkey=$pubkey " ++
      (Marker.standard.bytes ++ (Utf8.ofString "BEER" ++ Utf8.ofString " &")))
      (Utf8.ofString "./komodod -pubkey=$pubkey ") (Utf8.ofString "BEER") (Utf8.ofString " &") := by
    apply Marker.names_of_unnamed_before Marker.standard_isHeadedBy
    · decide
    · exact ⟨by decide, List.all_eq_true.1 (by decide)⟩
    · intro byte first
      obtain rfl := Option.some.inj first
      rfl
  rw [← whole] at parts
  have found := @launcher?_of_name? standard _ _ (Marker.name?_of_names parts)
  obtain ⟨before, after, names, renames⟩ := launcher_names_chain_iff found
  obtain ⟨rfl, -, rfl⟩ := names.unique parts
  exact ⟨_, found, renames.usual (by decide) (by decide)⟩

/-- A rule joins the name to what stands behind it, and the launcher carries a longer name. -/
theorem launcher_names_longer_chain :
    ∃ launcher, standard.launcher? (Utf8.ofString "-ac_name=A&B") = some launcher ∧
      Marker.standard.name? launcher.content = some (Utf8.ofString "AB") ∧
      launcher.chain ≠ Utf8.ofString "AB" := by
  exact ⟨_, rfl, by decide, by decide⟩

end Generator

end ChainLaunchers
