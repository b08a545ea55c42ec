/-
Module: ChainLaunchers.Proofs.Line.Characters
Purpose: What the rules and the trimming do to the bytes of a text is what they are meant to do
  to its characters.
Trusted boundary: none
Main exports:
  Literal.Divides.encode_iff, Rule.Rewrites, Rule.applyAll_of_rewrites, Line.isBlankCharacter,
  Line.trim_of_trims, Line.exists_of_mem_ofData
-/
import ChainLaunchers.Rule
import ChainLaunchers.Proofs.Line.Pieces
import ChainLaunchers.Proofs.Line.Trim
import ChainLaunchers.Proofs.Literal.Gaps
import ChainLaunchers.Proofs.Text.Ascii
import ChainLaunchers.Proofs.Text.Encoding

namespace ChainLaunchers

/-! ### Occurrences of a literal

A literal occurs among the bytes of a text exactly where it occurs in the text, and so both are
divided at the same characters. -/

namespace Utf8

theorem encode_eq_nil_iff (characters : List Char) : encode characters = [] ↔ characters = [] := by
  constructor
  · intro nothing
    exact encode_injective nothing
  · rintro rfl
    rfl

theorem encode_intercalate (between : List Char) (parts : List (List Char)) :
    encode (between.intercalate parts) = (encode between).intercalate (parts.map encode) := by
  induction parts with
  | nil => rfl
  | cons part others ih =>
      cases others with
      | nil => simp
      | cons next more =>
          rw [List.intercalate_cons_cons, encode_append, encode_append, ih]
          exact List.intercalate_cons_cons.symm

theorem encode_infix_iff {pattern text : List Char} (occurs : pattern ≠ []) :
    encode pattern <:+: encode text ↔ pattern <:+: text := by
  constructor
  · rintro ⟨left, right, whole⟩
    obtain ⟨before, after, rfl, -, -⟩ := exists_of_occurrence occurs whole.symm
    exact ⟨before, after, rfl⟩
  · rintro ⟨before, after, rfl⟩
    exact ⟨encode before, encode after, by rw [encode_append, encode_append]⟩

end Utf8

namespace Literal

theorem Leftmost.encode {pattern gap rest : List Char} (occurs : pattern ≠ [])
    (leftmost : Leftmost pattern gap rest) :
    Leftmost (Utf8.encode pattern) (Utf8.encode gap) (Utf8.encode rest) := by
  intro left right whole
  rw [← Utf8.encode_append, ← Utf8.encode_append] at whole
  obtain ⟨before, after, whole', rfl, -⟩ := Utf8.exists_of_occurrence occurs whole
  -- Of two beginnings of the same text, the shorter one has fewer bytes.
  have own : gap <+: gap ++ pattern ++ rest :=
    ⟨pattern ++ rest, (List.append_assoc gap pattern rest).symm⟩
  have other : before <+: gap ++ pattern ++ rest :=
    ⟨pattern ++ after, by rw [whole', List.append_assoc]⟩
  have begins := List.prefix_of_prefix_length_le own other (leftmost before after whole')
  obtain ⟨more, rfl⟩ := begins
  rw [Utf8.encode_append, List.length_append]
  exact Nat.le_add_right _ _

theorem Divides.encode {pattern text : List Char} {parts : List (List Char)}
    (divides : Divides pattern text parts) :
    Divides (Utf8.encode pattern) (Utf8.encode text) (parts.map Utf8.encode) := by
  induction divides with
  | last absent =>
      apply Divides.last
      rcases absent with rfl | absent
      · exact Or.inl rfl
      · by_cases occurs : pattern = []
        · exact Or.inl ((Utf8.encode_eq_nil_iff pattern).2 occurs)
        · exact Or.inr (mt (Utf8.encode_infix_iff occurs).1 absent)
  | next occurs leftmost others ih =>
      rw [Utf8.encode_append, Utf8.encode_append]
      exact Divides.next (mt (Utf8.encode_eq_nil_iff pattern).1 occurs) (leftmost.encode occurs) ih

/-- The gaps among the bytes of a text are the bytes of its gaps: no character is split. -/
theorem Divides.encode_iff {pattern text : List Char} {parts : List (List Char)}
    (divides : Divides pattern text parts) (gaps : List Bytes) :
    Divides (Utf8.encode pattern) (Utf8.encode text) gaps ↔ gaps = parts.map Utf8.encode := by
  constructor
  · intro divided
    exact divided.unique divides.encode
  · rintro rfl
    exact divides.encode

end Literal

/-! ### Rules -/

namespace Rule

/-- Rules rewrite a text in their order.  Each one puts its replacement in the place of the
occurrences of its literal, which are found from left to right and do not overlap. -/
inductive Rewrites : List Rule → List Char → List Char → Prop where
  | done {text : List Char} : Rewrites [] text text
  | rule {rule : Rule} {rules : List Rule} {text result : List Char} {gaps : List (List Char)}
      (divides : Literal.Divides rule.pattern.toList text gaps)
      (others : Rewrites rules (rule.replacement.toList.intercalate gaps) result) :
      Rewrites (rule :: rules) text result

theorem exists_rewrites (rules : List Rule) (text : List Char) :
    ∃ result, Rewrites rules text result := by
  induction rules generalizing text with
  | nil => exact ⟨text, .done⟩
  | cons rule rules ih =>
      obtain ⟨gaps, divides⟩ := Literal.exists_divides rule.pattern.toList text
      obtain ⟨result, others⟩ := ih (rule.replacement.toList.intercalate gaps)
      exact ⟨result, .rule divides others⟩

theorem Rewrites.unique {rules : List Rule} {text result result' : List Char}
    (rewrites : Rewrites rules text result) (rewrites' : Rewrites rules text result') :
    result = result' := by
  induction rewrites with
  | done =>
      cases rewrites' with
      | done => rfl
  | rule divides others ih =>
      cases rewrites' with
      | rule divides' others' =>
          rw [divides'.unique divides] at others'
          exact ih others'

/-- What a rule leaves of the bytes of a text are the bytes of the gaps in the text. -/
theorem apply_eq_intercalate (rule : Rule) {text : List Char} {gaps : List (List Char)}
    (divides : Literal.Divides rule.pattern.toList text gaps) :
    rule.apply (Utf8.encode text) =
      (Utf8.ofString rule.replacement).intercalate (gaps.map Utf8.encode) := by
  rw [apply, Utf8.ofString, Literal.replaceAll_eq_intercalate divides.encode]

/-- A rule does to the bytes of a text what it does to the text. -/
theorem apply_encode (rule : Rule) {text : List Char} {gaps : List (List Char)}
    (divides : Literal.Divides rule.pattern.toList text gaps) :
    rule.apply (Utf8.encode text) = Utf8.encode (rule.replacement.toList.intercalate gaps) := by
  rw [apply_eq_intercalate rule divides, Utf8.ofString, Utf8.encode_intercalate]

theorem applyAll_of_rewrites {rules : List Rule} {text result : List Char}
    (rewrites : Rewrites rules text result) :
    applyAll rules (Utf8.encode text) = Utf8.encode result := by
  induction rewrites with
  | done => rfl
  | rule divides others ih => rw [applyAll_cons, apply_encode _ divides, ih]

-- The bytes of the letter occur in the first word too, but not next to each other.
example : apply (.replace "é" "e") (Utf8.ofString "Ã© été") = Utf8.ofString "Ã© ete" := by
  decide +kernel

end Rule

/-! ### Trimming -/

namespace Line

/-- The characters that are dropped at the ends of a line: space, tab, line feed, carriage
return, null and vertical tab. -/
def isBlankCharacter (character : Char) : Bool :=
  character ∈ [' ', '\t', '\n', '\r', '\x00', '\x0b']

/-- The bytes of a blank character are blank, and no other character has a blank byte. -/
theorem isBlank_of_mem_encodeChar {character : Char} {byte : UInt8}
    (mem : byte ∈ String.utf8EncodeChar character) :
    Bytes.isBlank byte = isBlankCharacter character := by
  cases blank : isBlankCharacter character with
  | true =>
      simp only [isBlankCharacter, List.mem_cons, List.not_mem_nil, or_false, decide_eq_true_eq]
        at blank
      rcases blank with rfl | rfl | rfl | rfl | rfl | rfl
      all_goals
        obtain rfl := List.mem_singleton.1 mem
        rfl
  | false =>
      rw [← Bool.not_eq_true]
      intro blankByte
      have six : byte = 32 ∨ byte = 9 ∨ byte = 10 ∨ byte = 13 ∨ byte = 0 ∨ byte = 11 := by
        simpa only [Bytes.isBlank, Bool.or_eq_true, decide_eq_true_eq, or_assoc] using blankByte
      -- A blank byte is ASCII, so it is its character's only one.
      have same : character.toNat = byte.toNat := by
        apply Utf8.toNat_eq_of_mem_encodeChar mem
        rcases six with rfl | rfl | rfl | rfl | rfl | rfl
        all_goals decide
      rw [← Char.ofNat_toNat character, same] at blank
      rcases six with rfl | rfl | rfl | rfl | rfl | rfl
      all_goals cases blank

theorem Trims.encode {text kept : List Char} (trims : Trims isBlankCharacter text kept) :
    Trims Bytes.isBlank (Utf8.encode text) (Utf8.encode kept) := by
  obtain ⟨⟨front, back, rfl, frontBlank, backBlank⟩, begins, ends⟩ := trims
  constructor
  · refine ⟨Utf8.encode front, Utf8.encode back, ?_, ?_, ?_⟩
    · rw [Utf8.encode_append, Utf8.encode_append]
    · intro byte mem
      obtain ⟨character, present, inside⟩ := List.mem_flatMap.1 mem
      rw [isBlank_of_mem_encodeChar inside, frontBlank character present]
    · intro byte mem
      obtain ⟨character, present, inside⟩ := List.mem_flatMap.1 mem
      rw [isBlank_of_mem_encodeChar inside, backBlank character present]
  · intro byte first
    cases kept with
    | nil => cases first
    | cons character more =>
        have inside : byte ∈ String.utf8EncodeChar character := by
          obtain ⟨lead, others, spelling, -⟩ := Utf8.encodeChar_eq_cons character
          rw [Utf8.encode_cons, spelling] at first
          obtain rfl := Option.some.inj first
          rw [spelling]
          exact List.mem_cons_self
        rw [isBlank_of_mem_encodeChar inside, begins character rfl]
  · intro byte last
    cases final : kept.getLast? with
    | none =>
        obtain rfl := List.getLast?_eq_none_iff.1 final
        cases last
    | some character =>
        have inside : byte ∈ String.utf8EncodeChar character := by
          obtain ⟨earlier, rfl⟩ := List.getLast?_eq_some_iff.1 final
          obtain ⟨lead, others, spelling, -⟩ := Utf8.encodeChar_eq_cons character
          rw [Utf8.encode_append, Utf8.encode_cons, Utf8.encode_nil, List.append_nil, spelling,
            List.getLast?_append_cons] at last
          rw [spelling]
          exact List.mem_of_getLast? last
        rw [isBlank_of_mem_encodeChar inside, ends character final]

/-- A line of text is trimmed like the characters that it is made of. -/
theorem trim_of_trims {text kept : List Char} (trims : Trims isBlankCharacter text kept) :
    trim (Utf8.encode text) = Utf8.encode kept :=
  trim_eq_of_trims trims.encode

theorem Trims.unique {text kept kept' : List Char} (trims : Trims isBlankCharacter text kept)
    (trims' : Trims isBlankCharacter text kept') : kept = kept' := by
  apply Utf8.encode_injective
  rw [← trim_of_trims trims, ← trim_of_trims trims']

/-! ### Lines of text -/

/-- The lines of a text are texts. -/
theorem exists_of_mem_ofData {text : List Char} {line : Bytes}
    (mem : line ∈ ofData (Utf8.encode text)) : ∃ characters, Utf8.encode characters = line := by
  generalize whole : Utf8.encode text = data at mem
  induction data using data_induction generalizing text with
  | unfinished body unbroken =>
      rw [ofData_of_not_mem unbroken] at mem
      split at mem
      · cases mem
      · obtain rfl := List.mem_singleton.1 mem
        exact ⟨text, whole⟩
  | finished body rest unbroken ih =>
      -- The bytes are cut where a line feed occurs in the text.
      have occurrence : Utf8.encode text = body ++ Utf8.encode ['\n'] ++ rest := by
        rw [whole, List.append_assoc]
        rfl
      obtain ⟨before, after, rfl, rfl, rfl⟩ :=
        Utf8.exists_of_occurrence (List.cons_ne_nil _ _) occurrence
      rw [ofData_append_feed unbroken] at mem
      rcases List.mem_cons.1 mem with rfl | later
      · exact ⟨before ++ ['\n'], Utf8.encode_append before ['\n']⟩
      · exact ih rfl later

end Line

end ChainLaunchers
