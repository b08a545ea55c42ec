/-
Module: ChainLaunchers.Proofs.Literal.Scan
Purpose: Replacing a literal puts the replacement between the gaps that its leftmost occurrences
  leave, and a search that cuts the text at each occurrence comes to the same.
Trusted boundary: none
Main exports:
  Literal.IsGaps, Literal.Divides.isGaps, Literal.IsGaps.divides, Literal.position?,
  Literal.Scans, Literal.scans_iff, Literal.Replaces, Rule.RunsInOrder,
  Rule.replaces_between_gaps
-/
import ChainLaunchers.Rule
import ChainLaunchers.Proofs.Literal.Gaps
import ChainLaunchers.Proofs.Text.Encoding

namespace ChainLaunchers

namespace Literal

variable {α : Type}

/-! ### Gaps -/

/-- The gaps that the occurrences of a literal leave in a text: with the literal between them
they make up the text, each one but the last ends where the literal begins for the first time in
what is left of the text, and the literal does not occur in the last one. -/
structure IsGaps (pattern text : List α) (gaps : List (List α)) : Prop where
  some : gaps ≠ []
  whole : pattern.intercalate gaps = text
  leftmost : ∀ earlier gap later, gaps = earlier ++ gap :: later → later ≠ [] →
    Leftmost pattern gap (pattern.intercalate later)
  last : ∀ gap ∈ gaps.getLast?, ¬pattern <:+: gap

theorem Divides.whole {pattern text : List α} {gaps : List (List α)}
    (divides : Divides pattern text gaps) : pattern.intercalate gaps = text := by
  induction divides with
  | last absent => exact List.intercalate_singleton
  | next occurs leftmost others ih =>
      obtain ⟨next, more, rfl⟩ := List.exists_cons_of_ne_nil others.gaps_ne_nil
      rw [List.intercalate_cons_cons, ih]

theorem Divides.isGaps {pattern text : List α} {gaps : List (List α)} (occurs : pattern ≠ [])
    (divides : Divides pattern text gaps) : IsGaps pattern text gaps := by
  refine ⟨divides.gaps_ne_nil, divides.whole, ?_, ?_⟩
  · induction divides with
    | last absent =>
        intro earlier gap later same nonempty
        cases earlier with
        | nil => exact absurd (List.cons.inj same).2.symm nonempty
        | cons _ earlier => simp at same
    | next _ leftmost others ih =>
        intro earlier gap later same nonempty
        cases earlier with
        | nil =>
            obtain ⟨rfl, rfl⟩ := List.cons.inj same
            rwa [others.whole]
        | cons _ earlier => exact ih earlier gap later (List.cons.inj same).2 nonempty
  · induction divides with
    | last absent =>
        intro gap mem
        obtain rfl := Option.some.inj mem
        exact absent.resolve_left occurs
    | next _ leftmost others ih =>
        obtain ⟨next, more, rfl⟩ := List.exists_cons_of_ne_nil others.gaps_ne_nil
        intro gap mem
        rw [List.getLast?_cons_cons] at mem
        exact ih gap mem

theorem IsGaps.divides {pattern text : List α} {gaps : List (List α)} (occurs : pattern ≠ [])
    (isGaps : IsGaps pattern text gaps) : Divides pattern text gaps := by
  induction gaps generalizing text with
  | nil => exact absurd rfl isGaps.some
  | cons gap later ih =>
      obtain rfl := isGaps.whole
      cases later with
      | nil =>
          rw [List.intercalate_singleton]
          exact Divides.last (Or.inr (isGaps.last gap rfl))
      | cons next more =>
          rw [List.intercalate_cons_cons]
          have nonempty : next :: more ≠ [] := List.cons_ne_nil next more
          refine Divides.next occurs (isGaps.leftmost [] gap _ rfl nonempty) ?_
          apply ih
          refine ⟨nonempty, rfl, ?_, ?_⟩
          · intro earlier other others same
            exact isGaps.leftmost (gap :: earlier) other others (congrArg (gap :: ·) same)
          · intro other mem
            apply isGaps.last
            rwa [List.getLast?_cons_cons]

/-! ### The search as a loop

In each round the windows of the remaining text are compared with the literal.  The text is cut
around the first one that is equal to it, and what lies behind the cut remains. -/

section

variable [DecidableEq α]

/-- The stretches of a given size in a text, in the order in which they begin. -/
def windows (size : Nat) (text : List α) : List (List α) :=
  (List.range (text.length + 1 - size)).map fun start => (text.drop start).take size

/-- Where the first window begins that is equal to the literal. -/
def position? (pattern text : List α) : Option Nat :=
  (windows pattern.length text).findIdx? fun window => window = pattern

/-- The loop comes to `result` when `made` has been made of the text so far and `rest` remains.
No cut lies outside of the rest. -/
inductive Scans (pattern replacement : List α) : (made rest result : List α) → Prop where
  | done {made rest : List α} (absent : position? pattern rest = none) :
      Scans pattern replacement made rest (made ++ rest)
  | round {made rest result : List α} {start : Nat} (found : position? pattern rest = some start)
      (inside : start + pattern.length ≤ rest.length)
      (others : Scans pattern replacement (made ++ rest.take start ++ replacement)
        (rest.drop (start + pattern.length)) result) :
      Scans pattern replacement made rest result

omit [DecidableEq α] in
/-- A window that is equal to the literal is an occurrence. -/
theorem eq_append_of_window {pattern text : List α} {start : Nat}
    (same : (text.drop start).take pattern.length = pattern) :
    text = text.take start ++ pattern ++ text.drop (start + pattern.length) := by
  have cut := List.take_append_drop pattern.length (text.drop start)
  rw [same, List.drop_drop] at cut
  rw [List.append_assoc, cut, List.take_append_drop]

theorem position?_of_absent {pattern text : List α} (absent : ¬pattern <:+: text) :
    position? pattern text = none := by
  apply List.findIdx?_eq_none_iff.2
  intro window mem
  obtain ⟨start, -, rfl⟩ := List.mem_map.1 mem
  apply decide_eq_false
  intro same
  exact absent ⟨_, _, (eq_append_of_window same).symm⟩

/-- The first window that is equal to the literal is the first occurrence. -/
theorem position?_of_leftmost {pattern gap rest : List α} (leftmost : Leftmost pattern gap rest) :
    position? pattern (gap ++ pattern ++ rest) = some gap.length := by
  apply List.findIdx?_eq_some_iff_getElem.2
  refine ⟨?_, ?_, ?_⟩
  · rw [windows, List.length_map, List.length_range, List.length_append, List.length_append]
    omega
  · simp [windows]
  · intro start earlier same
    simp only [windows, List.getElem_map, List.getElem_range, decide_eq_true_eq] at same
    have first := leftmost _ _ (eq_append_of_window same)
    rw [List.length_take] at first
    omega

theorem scans_of_divides {pattern text : List α} {gaps : List (List α)} (occurs : pattern ≠ [])
    (divides : Divides pattern text gaps) (replacement made : List α) :
    Scans pattern replacement made text (made ++ replacement.intercalate gaps) := by
  induction divides generalizing made with
  | last absent =>
      rw [List.intercalate_singleton]
      exact Scans.done (position?_of_absent (absent.resolve_left occurs))
  | @next gap rest gaps _ leftmost others ih =>
      obtain ⟨next, more, rfl⟩ := List.exists_cons_of_ne_nil others.gaps_ne_nil
      apply Scans.round (position?_of_leftmost leftmost)
      · simp
      · have front : (gap ++ pattern ++ rest).take gap.length = gap := by simp
        have back : (gap ++ pattern ++ rest).drop (gap.length + pattern.length) = rest := by
          rw [← List.length_append, List.drop_left]
        rw [front, back, List.intercalate_cons_cons, ← List.append_assoc, ← List.append_assoc]
        exact ih (made ++ gap ++ replacement)

theorem Scans.unique {pattern replacement made rest result result' : List α}
    (scans : Scans pattern replacement made rest result)
    (scans' : Scans pattern replacement made rest result') : result = result' := by
  induction scans with
  | done absent =>
      cases scans' with
      | done => rfl
      | round found => cases absent.symm.trans found
  | round found inside others ih =>
      cases scans' with
      | done absent => cases absent.symm.trans found
      | round found' inside' others' =>
          obtain rfl := Option.some.inj (found.symm.trans found')
          exact ih others'

/-- The loop ends, with the result of replacing and no other. -/
theorem scans_iff {pattern : List α} (occurs : pattern ≠ []) (text replacement result : List α) :
    Scans pattern replacement [] text result ↔ result = replaceAll text pattern replacement := by
  obtain ⟨gaps, divides⟩ := exists_divides pattern text
  have scans := scans_of_divides occurs divides replacement []
  rw [replaceAll_eq_intercalate divides]
  constructor
  · intro scans'
    exact scans'.unique scans
  · rintro rfl
    exact scans

/-! ### Replacing -/

/-- Replacing a literal in a text is leftmost and does not overlap.  The gaps are found in the
text alone, so that no replacement is ever looked at again. -/
structure Replaces (pattern text : List α) : Prop where
  gaps : ∃! gaps, IsGaps pattern text gaps
  replaced : ∀ gaps replacement, IsGaps pattern text gaps →
    replaceAll text pattern replacement = replacement.intercalate gaps
  scanned : ∀ replacement result, Scans pattern replacement [] text result ↔
    result = replaceAll text pattern replacement

theorem replaces {pattern : List α} (occurs : pattern ≠ []) (text : List α) :
    Replaces pattern text := by
  constructor
  · obtain ⟨gaps, divides⟩ := exists_divides pattern text
    refine ⟨gaps, divides.isGaps occurs, ?_⟩
    intro gaps' isGaps
    exact (isGaps.divides occurs).unique divides
  · intro gaps replacement isGaps
    exact replaceAll_eq_intercalate (isGaps.divides occurs) replacement
  · intro replacement result
    exact scans_iff occurs text replacement result

end

end Literal

namespace Rule

/-! ### Rules in their order -/

theorem ofString_ne_nil {text : String} (nonempty : text ≠ "") : Utf8.ofString text ≠ [] := by
  intro empty
  have characters : text.toList = [] := Utf8.encode_injective empty
  exact nonempty (String.toList_eq_nil_iff.1 characters)

/-- A list of rules does to a line what its last rule does to the result of the others: it puts
its replacement between the gaps that its literal leaves there. -/
structure RunsInOrder (line : Bytes) : Prop where
  none : applyAll [] line = line
  next : ∀ earlier rule gaps, rule.pattern ≠ "" →
    Literal.IsGaps (Utf8.ofString rule.pattern) (applyAll earlier line) gaps →
    applyAll (earlier ++ [rule]) line = (Utf8.ofString rule.replacement).intercalate gaps
  empty : ∀ earlier rule, rule.pattern = "" →
    applyAll (earlier ++ [rule]) line = applyAll earlier line

theorem runsInOrder (line : Bytes) : RunsInOrder line := by
  constructor
  · rfl
  · intro earlier rule gaps nonempty isGaps
    rw [applyAll_append, applyAll_cons, applyAll_nil, apply]
    exact (Literal.replaces (ofString_ne_nil nonempty) _).replaced gaps _ isGaps
  · intro earlier rule empty
    rw [applyAll_append, applyAll_cons, applyAll_nil, apply, empty]
    exact Literal.replaceAll_empty _ _

/-- Replacing is leftmost and does not overlap, for every literal but the empty one and every
text, and rules do it one after another. -/
theorem replaces_between_gaps {pattern : Bytes} (occurs : pattern ≠ []) (text : Bytes) :
    Literal.Replaces pattern text ∧ ∀ line, RunsInOrder line :=
  ⟨Literal.replaces occurs text, runsInOrder⟩

/-- The literal overlaps itself and stands at both ends of the text, and its replacement holds it
too. -/
theorem replaces_between_gaps_of_repetitions : Utf8.ofString "aa" ≠ [] ∧
    ∃ gaps, Literal.IsGaps (Utf8.ofString "aa") (Utf8.ofString "aaabaa") gaps ∧
      (Utf8.ofString "aab").intercalate gaps = Utf8.ofString "aababaab" := by
  have occurs : Utf8.ofString "aa" ≠ [] := by decide
  obtain ⟨replaces, -⟩ := replaces_between_gaps occurs (Utf8.ofString "aaabaa")
  obtain ⟨gaps, isGaps, -⟩ := replaces.gaps
  have result := replaces.replaced gaps (Utf8.ofString "aab") isGaps
  exact ⟨occurs, gaps, isGaps, result.symm.trans (by decide)⟩

end Rule

end ChainLaunchers
