/-
Module: ChainLaunchers.Proofs.Literal.Separation
Purpose: Parts of a text that no occurrence of a literal reaches across are rewritten each by
  itself, and a part that no occurrence can share a member with stays as it is.
Trusted boundary: none
Main exports:
  Literal.Unstraddled, Literal.Unstraddled.infix_append_iff, Literal.unstraddled_of_getLast?,
  Literal.replaceAll_append_of_unstraddled, Literal.BeginsInside, Literal.replaceAll_around,
  Literal.head?_replaceAll, Literal.mem_of_mem_replaceAll
-/
import ChainLaunchers.Proofs.Literal.Gaps

namespace ChainLaunchers

namespace Literal

variable {α : Type}

/-! ### Cuts -/

/-- No occurrence of the literal reaches from the end of the left text into the right one. -/
def Unstraddled (pattern left right : List α) : Prop :=
  ∀ first second, pattern = first ++ second → first ≠ [] → second ≠ [] →
    first <:+ left → ¬second <+: right

theorem Unstraddled.tail {pattern left right : List α} {member : α}
    (unstraddled : Unstraddled pattern (member :: left) right) :
    Unstraddled pattern left right := by
  intro first second whole nonempty nonempty' ends
  apply unstraddled first second whole nonempty nonempty'
  exact ends.trans (List.suffix_cons member left)

/-- An occurrence that begins where the left text begins lies in it. -/
theorem Unstraddled.prefix_append_iff {pattern left right : List α}
    (unstraddled : Unstraddled pattern left right) (some : left ≠ []) :
    pattern <+: left ++ right ↔ pattern <+: left := by
  constructor
  · intro begins
    rcases List.prefix_or_prefix_of_prefix begins (List.prefix_append left right) with
      inside | beyond
    · exact inside
    · obtain ⟨second, rfl⟩ := beyond
      have inRight : second <+: right := (List.prefix_append_right_inj left).1 begins
      by_cases none : second = []
      · rw [none, List.append_nil]
      · exact absurd inRight (unstraddled left second rfl some none List.suffix_rfl)
  · intro inside
    exact inside.trans (List.prefix_append left right)

/-- Across an unstraddled cut there is no further occurrence. -/
theorem Unstraddled.infix_append_iff {pattern left right : List α}
    (unstraddled : Unstraddled pattern left right) :
    pattern <:+: left ++ right ↔ pattern <:+: left ∨ pattern <:+: right := by
  rw [List.infix_append_iff]
  constructor
  · rintro (inLeft | inRight | ⟨first, second, whole, ends, begins⟩)
    · exact Or.inl inLeft
    · exact Or.inr inRight
    · -- An occurrence at the cut has nothing on one of its sides.
      by_cases noFirst : first = []
      · subst noFirst
        exact Or.inr (whole ▸ begins.isInfix)
      · by_cases noSecond : second = []
        · subst noSecond
          rw [List.append_nil] at whole
          exact Or.inl (whole ▸ ends.isInfix)
        · exact absurd begins (unstraddled first second whole noFirst noSecond ends)
  · rintro (inLeft | inRight)
    · exact Or.inl inLeft
    · exact Or.inr (Or.inl inRight)

/-- Where the last member of a text stands in the literal at its end at most, no occurrence reaches
beyond the text. -/
theorem unstraddled_of_getLast? {pattern left : List α}
    (closed : ∀ member ∈ left.getLast?, member ∉ pattern.dropLast) (right : List α) :
    Unstraddled pattern left right := by
  rintro first second rfl nonempty nonempty' ⟨front, rfl⟩ -
  obtain ⟨before, last, rfl⟩ := (List.eq_nil_or_concat first).resolve_left nonempty
  apply closed last
  · rw [List.concat_eq_append, ← List.append_assoc]
    exact List.getLast?_concat
  · rw [List.dropLast_append_of_ne_nil nonempty']
    simp

section

variable [DecidableEq α]

/-- The search comes out of the left text with nothing owed. -/
theorem replaceFrom_append_of_unstraddled {pattern left right : List α}
    (unstraddled : Unstraddled pattern left right) (replacement : List α) {owed : Nat}
    (within : owed ≤ left.length) :
    replaceFrom pattern replacement owed (left ++ right) =
      replaceFrom pattern replacement owed left ++ replaceFrom pattern replacement 0 right := by
  induction left generalizing owed with
  | nil =>
      obtain rfl := Nat.le_zero.1 within
      rfl
  | cons member rest ih =>
      have ih := @ih unstraddled.tail
      cases owed with
      | succ owed => exact ih (Nat.le_of_succ_le_succ within)
      | zero =>
          have same : pattern.isPrefixOf (member :: (rest ++ right)) =
              pattern.isPrefixOf (member :: rest) := by
            rw [Bool.eq_iff_iff, List.isPrefixOf_iff_prefix, List.isPrefixOf_iff_prefix]
            exact unstraddled.prefix_append_iff (List.cons_ne_nil member rest)
          rw [List.cons_append, replaceFrom, replaceFrom, same]
          split
          · rename_i here
            -- The occurrence lies in the left text, and so does all of it that is still owed.
            have inside := (List.isPrefixOf_iff_prefix.1 here).length_le
            rw [List.length_cons] at inside
            rw [ih (Nat.sub_le_of_le_add inside), List.append_assoc]
          · rw [ih (Nat.zero_le _), List.cons_append]

/-- Two texts in a row are rewritten each by itself, if no occurrence reaches across. -/
theorem replaceAll_append_of_unstraddled {pattern left right : List α}
    (unstraddled : Unstraddled pattern left right) (replacement : List α) :
    replaceAll (left ++ right) pattern replacement =
      replaceAll left pattern replacement ++ replaceAll right pattern replacement := by
  by_cases empty : pattern = []
  · subst empty
    simp only [replaceAll_empty]
  · simp only [replaceAll, if_neg empty]
    exact replaceFrom_append_of_unstraddled unstraddled replacement (Nat.zero_le _)

theorem replaceAll_of_absent {pattern text : List α} (absent : ¬pattern <:+: text)
    (replacement : List α) : replaceAll text pattern replacement = text := by
  unfold replaceAll
  split
  · rfl
  · exact replaceFrom_of_absent replacement absent

/-- The first member of a text stays if the literal does not begin with it. -/
theorem head?_replaceAll {pattern text : List α} (unmet : pattern.head? ≠ text.head?)
    (replacement : List α) : (replaceAll text pattern replacement).head? = text.head? := by
  cases pattern with
  | nil => rw [replaceAll_empty]
  | cons first others =>
      rw [replaceAll, if_neg (List.cons_ne_nil first others)]
      cases text with
      | nil => rfl
      | cons member rest =>
          have notHere : ¬(first :: others).isPrefixOf (member :: rest) = true := by
            rw [List.isPrefixOf_iff_prefix, List.cons_prefix_cons]
            rintro ⟨rfl, -⟩
            exact unmet rfl
          rw [replaceFrom, if_neg notHere]
          rfl

/-- Replacing brings in nothing but the replacement. -/
theorem mem_of_mem_replaceAll {pattern text replacement : List α} {member : α}
    (mem : member ∈ replaceAll text pattern replacement) :
    member ∈ text ∨ member ∈ replacement := by
  have search : ∀ {owed : Nat} {text : List α},
      member ∈ replaceFrom pattern replacement owed text →
        member ∈ text ∨ member ∈ replacement := by
    intro owed text mem
    induction text generalizing owed with
    | nil => simp [replaceFrom] at mem
    | cons first rest ih =>
        have later : ∀ {owed : Nat}, member ∈ replaceFrom pattern replacement owed rest →
            member ∈ first :: rest ∨ member ∈ replacement := by
          intro owed mem
          exact (ih mem).imp_left (List.mem_cons_of_mem first)
        cases owed with
        | succ owed => exact later mem
        | zero =>
            rw [replaceFrom] at mem
            split at mem
            · rcases List.mem_append.1 mem with inserted | mem
              · exact Or.inr inserted
              · exact later mem
            · rcases List.mem_cons.1 mem with rfl | mem
              · exact Or.inl List.mem_cons_self
              · exact later mem
  unfold replaceAll at mem
  split at mem
  · exact Or.inl mem
  · exact search mem

end

/-! ### Texts that cannot lie over each other -/

/-- The second text can begin inside the first one: from some place of the first one on, the two
agree as far as both of them go on. -/
def BeginsInside (first second : List α) : Prop :=
  ∃ rest ∈ first.tails, rest ≠ [] ∧ (rest <+: second ∨ second <+: rest)

instance [DecidableEq α] (first second : List α) : Decidable (BeginsInside first second) :=
  inferInstanceAs (Decidable (∃ rest ∈ first.tails, _ ∧ _))

/-- An occurrence does not reach into a text that cannot begin inside the literal. -/
theorem unstraddled_of_core_outside {pattern core : List α}
    (outside : ¬BeginsInside pattern core) (left right : List α) :
    Unstraddled pattern left (core ++ right) := by
  rintro first second rfl - nonempty - begins
  apply outside
  refine ⟨second, (List.mem_tails _ _).2 (List.suffix_append first second), nonempty, ?_⟩
  exact List.prefix_or_prefix_of_prefix begins (List.prefix_append core right)

/-- An occurrence does not reach out of a text that the literal cannot begin inside of. -/
theorem unstraddled_of_pattern_outside {pattern core : List α}
    (outside : ¬BeginsInside core pattern) (right : List α) : Unstraddled pattern core right := by
  rintro first second rfl nonempty - ends -
  apply outside
  exact ⟨first, (List.mem_tails _ _).2 ends, nonempty, Or.inl (List.prefix_append first second)⟩

theorem not_infix_of_pattern_outside {pattern core : List α} (occurs : pattern ≠ [])
    (outside : ¬BeginsInside core pattern) : ¬pattern <:+: core := by
  rintro ⟨before, after, rfl⟩
  apply outside
  refine ⟨pattern ++ after, ?_, List.append_ne_nil_of_left_ne_nil occurs after,
    Or.inr (List.prefix_append pattern after)⟩
  rw [List.mem_tails, List.append_assoc]
  exact List.suffix_append before _

/-- A text that neither can begin inside the literal nor lets the literal begin inside it keeps
its place, and what stands around it is rewritten by itself. -/
theorem replaceAll_around [DecidableEq α] {pattern core : List α} (occurs : pattern ≠ [])
    (outside : ¬BeginsInside pattern core) (outside' : ¬BeginsInside core pattern)
    (left right replacement : List α) :
    replaceAll (left ++ (core ++ right)) pattern replacement =
      replaceAll left pattern replacement ++ (core ++ replaceAll right pattern replacement) := by
  rw [replaceAll_append_of_unstraddled (unstraddled_of_core_outside outside left right),
    replaceAll_append_of_unstraddled (unstraddled_of_pattern_outside outside' right),
    replaceAll_of_absent (not_infix_of_pattern_outside occurs outside')]

end Literal

end ChainLaunchers
