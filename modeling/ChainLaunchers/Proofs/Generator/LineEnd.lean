/-
Module: ChainLaunchers.Proofs.Generator.LineEnd
Purpose: How a line ends makes no difference to its launcher: the end takes no part in finding
  the name, the rules pass it on, and trimming takes it away.
Trusted boundary: none
Main exports:
  Literal.Apart, Literal.replaceAll_append, Marker.name?_append, Rule.applyAll_append_ending,
  Line.trim_append, Line.IsEnding, Generator.SearchesInsideLines, Generator.launcher?_append
-/
import ChainLaunchers.Generator
import ChainLaunchers.Proofs.Line.Trim
import ChainLaunchers.Proofs.Literal.Separation
import ChainLaunchers.Proofs.Text.Ascii

namespace ChainLaunchers

/-! ### Rules

A literal that has no member in common with the end of a line occurs before that end or not at
all, whatever the replacements before have made of the rest. -/

namespace Literal

variable {α : Type}

/-- The literal and the ending have no member in common. -/
def Apart (pattern ending : List α) : Prop := ∀ member ∈ ending, member ∉ pattern

/-- A literal does not go on into an ending that is apart from it. -/
theorem Apart.unstraddled {pattern ending : List α} (apart : Apart pattern ending)
    (text : List α) : Unstraddled pattern text ending := by
  rintro first second rfl - nonempty - inEnding
  obtain ⟨member, others, rfl⟩ := List.exists_cons_of_ne_nil nonempty
  have shared := apart member (inEnding.subset List.mem_cons_self)
  exact shared (List.mem_append_right first List.mem_cons_self)

theorem Apart.not_infix {pattern ending : List α} (apart : Apart pattern ending)
    (nonempty : pattern ≠ []) : ¬pattern <:+: ending := by
  intro occurs
  obtain ⟨first, others, rfl⟩ := List.exists_cons_of_ne_nil nonempty
  exact apart first (occurs.subset List.mem_cons_self) List.mem_cons_self

theorem replaceAll_append [DecidableEq α] {pattern ending : List α}
    (apart : Apart pattern ending) (text replacement : List α) :
    replaceAll (text ++ ending) pattern replacement =
      replaceAll text pattern replacement ++ ending := by
  by_cases empty : pattern = []
  · rw [empty, replaceAll_empty, replaceAll_empty]
  · rw [replaceAll_append_of_unstraddled (apart.unstraddled text),
      replaceAll_of_absent (apart.not_infix empty)]

end Literal

namespace Rule

/-- Rules pass on an ending that all their literals are apart from. -/
theorem applyAll_append_ending {rules : List Rule} {ending : Bytes}
    (apart : ∀ rule ∈ rules, Literal.Apart (Utf8.ofString rule.pattern) ending) (text : Bytes) :
    applyAll rules (text ++ ending) = applyAll rules text ++ ending := by
  induction rules generalizing text with
  | nil => rfl
  | cons rule rules ih =>
      rw [applyAll_cons, applyAll_cons, apply, apply,
        Literal.replaceAll_append (apart rule List.mem_cons_self)]
      apply ih
      intro other mem
      exact apart other (List.mem_cons_of_mem rule mem)

end Rule

/-! ### Names

A name ends before the first byte that is no word byte, and a marker only counts with a name
after it.  So neither of them reaches into an ending without word bytes, although the bytes of
the marker itself may do so. -/

namespace Marker

theorem takeWhile_isWord_append {ending : Bytes}
    (wordless : ∀ byte ∈ ending, Bytes.isWord byte = false) (text : Bytes) :
    (text ++ ending).takeWhile Bytes.isWord = text.takeWhile Bytes.isWord := by
  induction text with
  | nil =>
      cases ending with
      | nil => rfl
      | cons first rest =>
          rw [List.nil_append, List.takeWhile_cons, wordless first List.mem_cons_self]
          rfl
  | cons byte rest ih => rw [List.cons_append, List.takeWhile_cons, List.takeWhile_cons, ih]

theorem nameAt?_nil (marker : Marker) : marker.nameAt? [] = none := by simp [nameAt?]

/-- Where only an ending follows the marker, there is no name. -/
theorem nameAt?_of_length_le {marker : Marker} {line ending : Bytes}
    (wordless : ∀ byte ∈ ending, Bytes.isWord byte = false)
    (short : line.length ≤ marker.bytes.length) : marker.nameAt? (line ++ ending) = none := by
  have nameless : ((line ++ ending).drop marker.bytes.length).takeWhile Bytes.isWord = [] := by
    rw [List.drop_append, List.drop_eq_nil_of_le short, List.nil_append,
      ← List.nil_append (List.drop _ ending)]
    apply takeWhile_isWord_append
    intro byte mem
    exact wordless byte (List.mem_of_mem_drop mem)
  simp only [nameAt?, nameless, ite_self]

theorem nameAt?_append {ending : Bytes}
    (wordless : ∀ byte ∈ ending, Bytes.isWord byte = false) (marker : Marker) (line : Bytes) :
    marker.nameAt? (line ++ ending) = marker.nameAt? line := by
  by_cases short : line.length ≤ marker.bytes.length
  · have bare : marker.nameAt? (line ++ []) = none :=
      nameAt?_of_length_le (List.forall_mem_nil _) short
    rw [nameAt?_of_length_le wordless short, ← bare, List.append_nil]
  · have long : marker.bytes.length ≤ line.length := Nat.le_of_not_le short
    have same : marker.bytes.isPrefixOf (line ++ ending) = marker.bytes.isPrefixOf line := by
      rw [Bool.eq_iff_iff, List.isPrefixOf_iff_prefix, List.isPrefixOf_iff_prefix]
      constructor
      · intro begins
        exact List.prefix_of_prefix_length_le begins (List.prefix_append line ending) long
      · intro begins
        exact begins.trans (List.prefix_append line ending)
    rw [nameAt?, nameAt?, same, List.drop_append_of_le_length long,
      takeWhile_isWord_append wordless]

theorem name?_of_wordless {line : Bytes} (wordless : ∀ byte ∈ line, Bytes.isWord byte = false)
    (marker : Marker) : marker.name? line = none := by
  induction line with
  | nil => rfl
  | cons byte rest ih =>
      have nothing := nameAt?_append wordless marker []
      rw [List.nil_append, nameAt?_nil] at nothing
      rw [name?, nothing]
      apply ih
      intro other mem
      exact wordless other (List.mem_cons_of_mem byte mem)

/-- An ending without word bytes takes no part in the name of a line. -/
theorem name?_append {ending : Bytes} (wordless : ∀ byte ∈ ending, Bytes.isWord byte = false)
    (marker : Marker) (line : Bytes) : marker.name? (line ++ ending) = marker.name? line := by
  induction line with
  | nil => exact name?_of_wordless wordless marker
  | cons byte rest ih =>
      have here := nameAt?_append wordless marker (byte :: rest)
      rw [List.cons_append] at here ⊢
      rw [name?, name?, here, ih]

end Marker

/-! ### Trimming -/

namespace Line

/-- Trimming takes a blank ending away with the rest. -/
theorem trim_append {ending : Bytes} (blank : ∀ byte ∈ ending, Bytes.isBlank byte = true)
    (line : Bytes) : trim (line ++ ending) = trim line := by
  obtain ⟨kept, trims⟩ := exists_trims Bytes.isBlank line
  obtain ⟨⟨front, back, whole, frontBlank, backBlank⟩, begins, ends⟩ := trims
  have extended : Trims Bytes.isBlank (line ++ ending) kept := by
    refine ⟨⟨front, back ++ ending, by rw [whole, List.append_assoc], frontBlank, ?_⟩, begins,
      ends⟩
    intro byte mem
    exact (List.mem_append.1 mem).elim (backBlank byte) (blank byte)
  have own : Trims Bytes.isBlank line kept :=
    ⟨⟨front, back, whole, frontBlank, backBlank⟩, begins, ends⟩
  rw [trim_eq_of_trims extended, trim_eq_of_trims own]

/-! ### Ends of lines -/

/-- The carriage return. -/
def carriageReturn : UInt8 := 13

/-- What a line can end with: line feeds and carriage returns. -/
def IsEnding (ending : Bytes) : Prop := ∀ byte ∈ ending, byte = feed ∨ byte = carriageReturn

theorem IsEnding.wordless {ending : Bytes} (isEnding : IsEnding ending) :
    ∀ byte ∈ ending, Bytes.isWord byte = false := by
  intro byte mem
  rcases isEnding byte mem with rfl | rfl
  · rfl
  · rfl

theorem IsEnding.blank {ending : Bytes} (isEnding : IsEnding ending) :
    ∀ byte ∈ ending, Bytes.isBlank byte = true := by
  intro byte mem
  rcases isEnding byte mem with rfl | rfl
  · rfl
  · rfl

theorem isEnding_feed : IsEnding [feed] := by simp [IsEnding]

theorem isEnding_return_feed : IsEnding [carriageReturn, feed] := by simp [IsEnding]

end Line

/-! ### Launchers -/

namespace Generator

/-- No rule searches for anything that the end of a line could be part of. -/
def SearchesInsideLines (generator : Generator) : Prop :=
  ∀ rule ∈ generator.rules, '\n' ∉ rule.pattern.toList ∧ '\r' ∉ rule.pattern.toList

instance (generator : Generator) : Decidable generator.SearchesInsideLines :=
  inferInstanceAs (Decidable (∀ rule ∈ generator.rules, _))

theorem SearchesInsideLines.apart {generator : Generator} (inside : generator.SearchesInsideLines)
    {ending : Bytes} (isEnding : Line.IsEnding ending) :
    ∀ rule ∈ generator.rules, Literal.Apart (Utf8.ofString rule.pattern) ending := by
  intro rule mem byte inEnding inPattern
  have ascii : byte.toNat < 128 := by rcases isEnding byte inEnding with rfl | rfl <;> decide
  obtain ⟨character, present, same⟩ := Utf8.exists_char_of_mem inPattern ascii
  obtain ⟨noFeed, noReturn⟩ := inside rule mem
  rcases isEnding byte inEnding with rfl | rfl
  · obtain rfl : character = '\n' := Char.toNat_inj.1 same
    exact noFeed present
  · obtain rfl : character = '\r' := Char.toNat_inj.1 same
    exact noReturn present

/-- The launcher of a line does not depend on how the line ends. -/
theorem launcher?_append {generator : Generator} (inside : generator.SearchesInsideLines)
    {ending : Bytes} (isEnding : Line.IsEnding ending) (line : Bytes) :
    generator.launcher? (line ++ ending) = generator.launcher? line := by
  rw [launcher?, launcher?, Marker.name?_append isEnding.wordless,
    Rule.applyAll_append_ending (inside.apart isEnding), Line.trim_append isEnding.blank]

end Generator

end ChainLaunchers
