/-
Module: ChainLaunchers.Proofs.Literal.Elimination
Purpose: When a rule leaves nothing of its literal: a replacement brings the literal back only
  where the two share a part, or one of them holds the other.
Trusted boundary: none
Main exports:
  Literal.Unmixed, Literal.unmixed_iff, Literal.Unmixed.not_infix_replaceAll,
  Literal.replaceAll_singleton, Rule.IsThorough, Rule.Eliminates, Rule.eliminates_literal
-/
import ChainLaunchers.Proofs.Line.Characters
import ChainLaunchers.Proofs.Literal.Separation

namespace ChainLaunchers

namespace Literal

variable {α : Type}

/-! ### Literals and replacements without a common part -/

/-- Neither of the literal and its replacement holds the other, and neither ends with a beginning
of the other. -/
structure Unmixed (pattern replacement : List α) : Prop where
  inserted : ¬pattern <:+: replacement
  swallowed : ¬replacement <:+: pattern
  /-- What stands behind the replacement could complete a literal that begins in it. -/
  after : ∀ start, start <+: pattern → start ≠ [] → start ≠ pattern → ¬start <:+ replacement
  /-- What stands in front of the replacement could be completed by it to the literal. -/
  before : ∀ rest, rest <:+ pattern → rest ≠ [] → rest ≠ pattern → ¬rest <+: replacement

namespace Unmixed

variable {pattern replacement : List α} (unmixed : Unmixed pattern replacement)

include unmixed

/-- An empty literal would occur in every replacement. -/
theorem pattern_ne_nil : pattern ≠ [] := by
  rintro rfl
  exact unmixed.inserted List.nil_infix

theorem replacement_ne_nil : replacement ≠ [] := by
  rintro rfl
  exact unmixed.swallowed List.nil_infix

theorem pattern_outside : ¬BeginsInside replacement pattern := by
  rintro ⟨rest, mem, nonempty, begins | holds⟩
  · rw [List.mem_tails] at mem
    by_cases whole : rest = pattern
    · exact unmixed.inserted (whole ▸ mem.isInfix)
    · exact unmixed.after rest begins nonempty whole mem
  · exact unmixed.inserted (holds.isInfix.trans ((List.mem_tails _ _).1 mem).isInfix)

theorem replacement_outside : ¬BeginsInside pattern replacement := by
  rintro ⟨rest, mem, nonempty, begins | holds⟩
  · rw [List.mem_tails] at mem
    by_cases whole : rest = pattern
    · exact unmixed.inserted (whole ▸ begins.isInfix)
    · exact unmixed.before rest mem nonempty whole begins
  · exact unmixed.swallowed (holds.isInfix.trans ((List.mem_tails _ _).1 mem).isInfix)

end Unmixed

/-- The two are unmixed exactly if neither can begin inside the other. -/
theorem unmixed_iff {pattern replacement : List α} :
    Unmixed pattern replacement ↔
      (pattern ≠ [] ∧ replacement ≠ []) ∧
        ¬BeginsInside replacement pattern ∧ ¬BeginsInside pattern replacement := by
  constructor
  · intro unmixed
    exact ⟨⟨unmixed.pattern_ne_nil, unmixed.replacement_ne_nil⟩, unmixed.pattern_outside,
      unmixed.replacement_outside⟩
  · rintro ⟨⟨occurs, some⟩, patternOutside, replacementOutside⟩
    constructor
    · exact not_infix_of_pattern_outside occurs patternOutside
    · exact not_infix_of_pattern_outside some replacementOutside
    · intro start begins nonempty _ ends
      exact patternOutside ⟨start, (List.mem_tails _ _).2 ends, nonempty, Or.inl begins⟩
    · intro rest ends nonempty _ begins
      exact replacementOutside ⟨rest, (List.mem_tails _ _).2 ends, nonempty, Or.inl begins⟩

instance [DecidableEq α] (pattern replacement : List α) :
    Decidable (Unmixed pattern replacement) := decidable_of_iff _ unmixed_iff.symm

/-- The literal does not occur in a gap in front of its first occurrence. -/
theorem Leftmost.not_infix {pattern gap rest : List α} (occurs : pattern ≠ [])
    (leftmost : Leftmost pattern gap rest) : ¬pattern <:+: gap := by
  rintro ⟨before, after, rfl⟩
  have inside := leftmost before (after ++ pattern ++ rest) (by simp)
  have positive := List.length_pos_iff.2 occurs
  simp only [List.length_append] at inside
  omega

/-- Where the replacement stands between the gaps of a text, no occurrence of the literal can lie
in a gap, in a replacement, or across the border of the two. -/
theorem Unmixed.not_infix_intercalate {pattern replacement text : List α}
    {gaps : List (List α)} (unmixed : Unmixed pattern replacement)
    (divides : Divides pattern text gaps) : ¬pattern <:+: replacement.intercalate gaps := by
  have occurs := unmixed.pattern_ne_nil
  induction divides with
  | last absent =>
      rw [List.intercalate_singleton]
      exact absent.resolve_left occurs
  | @next gap rest gaps _ leftmost others ih =>
      obtain ⟨next, more, rfl⟩ := List.exists_cons_of_ne_nil others.gaps_ne_nil
      have border := unstraddled_of_core_outside unmixed.replacement_outside gap
        (replacement.intercalate (next :: more))
      have border' := unstraddled_of_pattern_outside unmixed.pattern_outside
        (replacement.intercalate (next :: more))
      rw [List.intercalate_cons_cons, List.append_assoc, border.infix_append_iff,
        border'.infix_append_iff]
      rintro (inGap | inserted | later)
      · exact leftmost.not_infix occurs inGap
      · exact unmixed.inserted inserted
      · exact ih later

/-! ### Replacing -/

section

variable [DecidableEq α]

theorem Unmixed.not_infix_replaceAll {pattern replacement : List α}
    (unmixed : Unmixed pattern replacement) (text : List α) :
    ¬pattern <:+: replaceAll text pattern replacement := by
  obtain ⟨gaps, divides⟩ := exists_divides pattern text
  rw [replaceAll_eq_intercalate divides]
  exact unmixed.not_infix_intercalate divides

/-- A literal with a single member is replaced member by member. -/
theorem replaceAll_singleton (text : List α) (member : α) (replacement : List α) :
    replaceAll text [member] replacement =
      text.flatMap fun other => if other = member then replacement else [other] := by
  rw [replaceAll, if_neg (List.cons_ne_nil member [])]
  induction text with
  | nil => rfl
  | cons first rest ih =>
      rw [replaceFrom, List.flatMap_cons, ← ih]
      by_cases same : first = member
      · rw [if_pos same, if_pos (by simp [same])]
        rfl
      · rw [if_neg same, if_neg (by simp [Ne.symm same])]
        rfl

/-- A member that is deleted is gone. -/
theorem not_mem_replaceAll_singleton (text : List α) (member : α) :
    member ∉ replaceAll text [member] [] := by
  rw [replaceAll_singleton, List.mem_flatMap]
  rintro ⟨other, -, mem⟩
  split at mem
  · cases mem
  · rename_i different
    exact different (List.mem_singleton.1 mem).symm

end

/-! ### Literals of text -/

/-- A part of a text that a replacement begins or ends with is a part of characters, so it is the
same whether the characters or their bytes are compared. -/
theorem Unmixed.encode {pattern replacement : List Char} (unmixed : Unmixed pattern replacement) :
    Unmixed (Utf8.encode pattern) (Utf8.encode replacement) := by
  have occurs := unmixed.pattern_ne_nil
  have some := unmixed.replacement_ne_nil
  constructor
  · rw [Utf8.encode_infix_iff occurs]
    exact unmixed.inserted
  · rw [Utf8.encode_infix_iff some]
    exact unmixed.swallowed
  · rintro start ⟨right, whole⟩ nonempty proper ⟨left, whole'⟩
    have afresh : Utf8.BeginsAfresh start := by
      intro byte first
      apply Utf8.beginsAfresh_encode pattern [] occurs byte
      rw [List.append_nil, ← whole, List.head?_append, Option.mem_def.1 first]
      rfl
    obtain ⟨before, part, rfl, rfl, rfl⟩ := Utf8.exists_of_encode_eq_append whole'.symm afresh
    obtain ⟨more, rfl, -⟩ := Utf8.exists_of_encode_prefix whole.symm
    apply unmixed.after part (List.prefix_append part more)
    · exact mt (Utf8.encode_eq_nil_iff part).2 nonempty
    · exact mt (congrArg Utf8.encode) proper
    · exact List.suffix_append before part
  · rintro rest ⟨left, whole⟩ nonempty proper ⟨right, whole'⟩
    have afresh : Utf8.BeginsAfresh rest := by
      intro byte first
      apply Utf8.beginsAfresh_encode replacement [] some byte
      rw [List.append_nil, ← whole', List.head?_append, Option.mem_def.1 first]
      rfl
    obtain ⟨before, part, rfl, rfl, rfl⟩ := Utf8.exists_of_encode_eq_append whole.symm afresh
    obtain ⟨more, rfl, -⟩ := Utf8.exists_of_encode_prefix whole'.symm
    apply unmixed.before part (List.suffix_append before part)
    · exact mt (Utf8.encode_eq_nil_iff part).2 nonempty
    · exact mt (congrArg Utf8.encode) proper
    · exact List.prefix_append part more

end Literal

namespace Rule

/-! ### Rules -/

/-- The rules that can be relied on to leave nothing of their literal. -/
inductive IsThorough : Rule → Prop where
  | replace {pattern replacement : String}
      (unmixed : Literal.Unmixed pattern.toList replacement.toList) :
      IsThorough (.replace pattern replacement)
  | remove {pattern : String} {byte : UInt8} (single : Utf8.ofString pattern = [byte]) :
      IsThorough (.remove pattern)

/-- Whatever the line, the literal does not occur in what the rule makes of it, and the rule does
nothing more there. -/
structure Eliminates (rule : Rule) : Prop where
  absent : ∀ line, ¬Utf8.ofString rule.pattern <:+: rule.apply line
  again : ∀ line, rule.apply (rule.apply line) = rule.apply line

/-- The one byte of a literal that is deleted. -/
theorem not_mem_apply_remove {pattern : String} {byte : UInt8}
    (single : Utf8.ofString pattern = [byte]) (line : Bytes) :
    byte ∉ (Rule.remove pattern).apply line := by
  change byte ∉ Literal.replaceAll line (Utf8.ofString pattern) []
  rw [single]
  exact Literal.not_mem_replaceAll_singleton line byte

theorem IsThorough.not_infix_apply {rule : Rule} (thorough : rule.IsThorough) (line : Bytes) :
    ¬Utf8.ofString rule.pattern <:+: rule.apply line := by
  cases thorough with
  | replace unmixed => exact unmixed.encode.not_infix_replaceAll line
  | @remove pattern byte single =>
      intro occurs
      have mem : byte ∈ Utf8.ofString pattern := single ▸ List.mem_singleton_self byte
      exact not_mem_apply_remove single line (occurs.subset mem)

theorem eliminates_of_isThorough {rule : Rule} (thorough : rule.IsThorough) : rule.Eliminates := by
  constructor
  · exact thorough.not_infix_apply
  · intro line
    exact Literal.replaceAll_of_absent (thorough.not_infix_apply line) _

-- The halves of a literal that is deleted can come together to the literal again.
example : (Rule.remove "ab").apply (Utf8.ofString "aabb") = Utf8.ofString "ab" := by decide

/-- A rule eliminates its literal if it replaces it by a text that has no part in common with it,
or deletes a single byte.  The first of the usual rules is one of these. -/
theorem eliminates_literal :
    (∀ rule : Rule, rule.IsThorough → rule.Eliminates) ∧
      ∀ rule ∈ standard.head?, rule = .replace "./komodod " startCommand ∧ rule.IsThorough := by
  refine ⟨fun _ => eliminates_of_isThorough, ?_⟩
  intro rule first
  obtain rfl := Option.some.inj first
  exact ⟨rfl, .replace (by decide)⟩

/-- The literal overlaps itself, and its occurrences touch each other. -/
theorem eliminates_literal_of_repetitions :
    (Rule.replace "aba" "c").IsThorough ∧
      (Rule.replace "aba" "c").apply (Utf8.ofString "ababaabab") = Utf8.ofString "cbacb" ∧
      ¬Utf8.ofString "aba" <:+: (Rule.replace "aba" "c").apply (Utf8.ofString "ababaabab") := by
  have thorough : (Rule.replace "aba" "c").IsThorough := .replace (by decide)
  exact ⟨thorough, by decide, (eliminates_literal.1 _ thorough).absent _⟩

end Rule

end ChainLaunchers
