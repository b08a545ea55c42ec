/-
Module: ChainLaunchers.Proofs.Literal.Gaps
Purpose: The gaps that the occurrences of a literal leave in a text, and replacing as putting
  something else between them.
Trusted boundary: none
Main exports:
  Literal.Leftmost, Literal.Divides, Literal.exists_divides, Literal.Divides.unique,
  Literal.replaceAll_eq_intercalate
-/
import ChainLaunchers.Literal
import Mathlib.Data.List.Basic
import Mathlib.Data.List.Infix

namespace ChainLaunchers

namespace Literal

variable {α : Type}

/-! ### The first occurrence -/

/-- In `gap ++ pattern ++ rest`, no occurrence of the pattern begins before the end of the gap. -/
def Leftmost (pattern gap rest : List α) : Prop :=
  ∀ before after, gap ++ pattern ++ rest = before ++ pattern ++ after →
    gap.length ≤ before.length

/-- A first occurrence stays the first one when the member in front of it is taken away. -/
theorem Leftmost.tail {pattern gap rest : List α} {member : α}
    (leftmost : Leftmost pattern (member :: gap) rest) : Leftmost pattern gap rest := by
  intro before after whole
  have shifted := leftmost (member :: before) after (by simpa using whole)
  simpa using shifted

theorem exists_leftmost {pattern text : List α} (occurs : pattern <:+: text) :
    ∃ gap rest, text = gap ++ pattern ++ rest ∧ Leftmost pattern gap rest := by
  induction text with
  | nil =>
      obtain rfl := List.infix_nil.1 occurs
      exact ⟨[], [], rfl, fun _ _ _ => Nat.zero_le _⟩
  | cons member text ih =>
      by_cases here : pattern <+: member :: text
      · obtain ⟨rest, whole⟩ := here
        exact ⟨[], rest, whole.symm, fun _ _ _ => Nat.zero_le _⟩
      · obtain ⟨gap, rest, rfl, leftmost⟩ := ih ((List.infix_cons_iff.1 occurs).resolve_left here)
        refine ⟨member :: gap, rest, by simp, ?_⟩
        intro before after whole
        cases before with
        | nil =>
            -- The occurrence would begin at the member itself.
            exact absurd ⟨after, by simpa using whole.symm⟩ here
        | cons first before =>
            obtain ⟨_, whole'⟩ := List.cons.inj whole
            exact Nat.succ_le_succ (leftmost before after whole')

/-- Where the first occurrence lies is determined by the text. -/
theorem Leftmost.unique {pattern gap rest gap' rest' : List α}
    (leftmost : Leftmost pattern gap rest) (leftmost' : Leftmost pattern gap' rest')
    (whole : gap ++ pattern ++ rest = gap' ++ pattern ++ rest') : gap = gap' ∧ rest = rest' := by
  have length : gap.length = gap'.length :=
    Nat.le_antisymm (leftmost gap' rest' whole) (leftmost' gap rest whole.symm)
  rw [List.append_assoc, List.append_assoc] at whole
  obtain ⟨sameGap, sameRest⟩ := List.append_inj whole length
  exact ⟨sameGap, List.append_cancel_left sameRest⟩

/-! ### All occurrences

From left to right, each occurrence is the first one in what follows the occurrence before it.
An empty literal occurs nowhere. -/

/-- The occurrences of a literal divide a text into gaps. -/
inductive Divides (pattern : List α) : List α → List (List α) → Prop where
  /-- The literal does not occur. -/
  | last {text : List α} (absent : pattern = [] ∨ ¬pattern <:+: text) : Divides pattern text [text]
  /-- What follows the first occurrence is divided in turn. -/
  | next {gap rest : List α} {gaps : List (List α)} (occurs : pattern ≠ [])
      (leftmost : Leftmost pattern gap rest) (others : Divides pattern rest gaps) :
      Divides pattern (gap ++ pattern ++ rest) (gap :: gaps)

namespace Divides

theorem gaps_ne_nil {pattern text : List α} {gaps : List (List α)}
    (divides : Divides pattern text gaps) : gaps ≠ [] := by
  cases divides with
  | last absent => exact List.cons_ne_nil _ _
  | next occurs leftmost others => exact List.cons_ne_nil _ _

/-- No two divisions of a text differ. -/
theorem unique {pattern text : List α} {gaps gaps' : List (List α)}
    (divides : Divides pattern text gaps) (divides' : Divides pattern text gaps') :
    gaps = gaps' := by
  induction divides generalizing gaps' with
  | last absent =>
      cases divides' with
      | last absent' => rfl
      | next occurs leftmost others =>
          exact absurd ⟨_, _, rfl⟩ (absent.resolve_left occurs)
  | @next gap rest gaps occurs leftmost others ih =>
      generalize whole : gap ++ pattern ++ rest = text at divides'
      cases divides' with
      | last absent =>
          exact absurd ⟨gap, rest, whole⟩ (absent.resolve_left occurs)
      | next occurs' leftmost' others' =>
          obtain ⟨rfl, rfl⟩ := leftmost.unique leftmost' whole
          rw [ih others']

end Divides

/-- Every text is divided. -/
theorem exists_divides (pattern text : List α) : ∃ gaps, Divides pattern text gaps := by
  -- Along the length: what follows an occurrence is shorter than the text.
  induction length : text.length using Nat.strong_induction_on generalizing text with
  | _ length ih =>
      subst length
      by_cases absent : pattern = [] ∨ ¬pattern <:+: text
      · exact ⟨[text], .last absent⟩
      · obtain ⟨occurs, inside⟩ := not_or.1 absent
        obtain ⟨gap, rest, rfl, leftmost⟩ := exists_leftmost (not_not.1 inside)
        have shorter : rest.length < (gap ++ pattern ++ rest).length := by
          have := List.length_pos_iff.2 occurs
          simp only [List.length_append]
          omega
        obtain ⟨gaps, others⟩ := ih rest.length shorter rest rfl
        exact ⟨gap :: gaps, .next occurs leftmost others⟩

/-! ### Replacing -/

section Replacing

variable [DecidableEq α]

/-- A text without the literal is not changed. -/
theorem replaceFrom_of_absent {pattern text : List α} (replacement : List α)
    (absent : ¬pattern <:+: text) : replaceFrom pattern replacement 0 text = text := by
  induction text with
  | nil => rfl
  | cons member text ih =>
      rw [List.infix_cons_iff, not_or, ← List.isPrefixOf_iff_prefix] at absent
      rw [replaceFrom, if_neg absent.1, ih absent.2]

/-- The first occurrence is replaced, and the search goes on behind it. -/
theorem replaceFrom_of_leftmost {pattern gap rest : List α} (replacement : List α)
    (occurs : pattern ≠ []) (leftmost : Leftmost pattern gap rest) :
    replaceFrom pattern replacement 0 (gap ++ pattern ++ rest) =
      gap ++ replacement ++ replaceFrom pattern replacement 0 rest := by
  induction gap with
  | nil =>
      obtain ⟨first, others, rfl⟩ := List.exists_cons_of_ne_nil occurs
      have here : (first :: others).isPrefixOf (first :: (others ++ rest)) = true :=
        List.isPrefixOf_iff_prefix.2 (List.prefix_append (first :: others) rest)
      rw [List.nil_append, List.cons_append, replaceFrom, if_pos here, replaceFrom_eq_drop]
      simp
  | cons member gap ih =>
      have notHere : ¬pattern.isPrefixOf (member :: (gap ++ pattern ++ rest)) = true := by
        rw [List.isPrefixOf_iff_prefix]
        rintro ⟨after, whole⟩
        exact absurd (leftmost [] after whole.symm) (Nat.not_succ_le_zero _)
      rw [List.cons_append, List.cons_append, replaceFrom, if_neg notHere, ih leftmost.tail]
      rfl

/-- Replacing puts the replacement between the gaps, in the place of each occurrence. -/
theorem replaceAll_eq_intercalate {pattern text : List α} {gaps : List (List α)}
    (divides : Divides pattern text gaps) (replacement : List α) :
    replaceAll text pattern replacement = replacement.intercalate gaps := by
  by_cases empty : pattern = []
  · cases divides with
    | last absent => rw [empty, replaceAll_empty, List.intercalate_singleton]
    | next occurs leftmost others => exact absurd empty occurs
  · rw [replaceAll, if_neg empty]
    induction divides with
    | last absent =>
        rw [replaceFrom_of_absent replacement (absent.resolve_left empty),
          List.intercalate_singleton]
    | @next gap rest gaps occurs leftmost others ih =>
        obtain ⟨next, more, rfl⟩ := List.exists_cons_of_ne_nil others.gaps_ne_nil
        rw [replaceFrom_of_leftmost replacement occurs leftmost, ih,
          List.intercalate_cons_cons]

end Replacing

end Literal

end ChainLaunchers
