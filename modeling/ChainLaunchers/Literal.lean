/-
Module: ChainLaunchers.Literal
Purpose: Replacing the occurrences of a literal in a sequence, whatever it is a sequence of.
Trusted boundary: none
Main exports:
  Literal.replaceAll
-/

namespace ChainLaunchers

namespace Literal

/-!
A literal is looked for from left to right.  An occurrence is replaced and passed over, so
occurrences never overlap and the inserted text is not looked at again.
-/

/-- Goes through `text`, of which the first `owed` members still belong to an occurrence that has
been replaced already. -/
def replaceFrom {α : Type} [DecidableEq α] (pattern replacement : List α) :
    (owed : Nat) → (text : List α) → List α
  | _, [] => []
  | owed + 1, _ :: rest => replaceFrom pattern replacement owed rest
  | 0, member :: rest =>
    if pattern.isPrefixOf (member :: rest) then
      replacement ++ replaceFrom pattern replacement (pattern.length - 1) rest
    else member :: replaceFrom pattern replacement 0 rest

/-- Replaces every occurrence of `pattern`.  An empty pattern occurs nowhere. -/
def replaceAll {α : Type} [DecidableEq α] (text pattern replacement : List α) : List α :=
  if pattern = [] then text else replaceFrom pattern replacement 0 text

/-- The members still owed are dropped. -/
theorem replaceFrom_eq_drop {α : Type} [DecidableEq α] (pattern replacement : List α)
    (owed : Nat) (text : List α) :
    replaceFrom pattern replacement owed text =
      replaceFrom pattern replacement 0 (text.drop owed) := by
  induction text generalizing owed with
  | nil => cases owed <;> simp [replaceFrom]
  | cons member rest ih =>
    cases owed with
    | zero => rfl
    | succ owed => simpa [replaceFrom] using ih owed

@[simp] theorem replaceAll_empty {α : Type} [DecidableEq α] (text replacement : List α) :
    replaceAll text [] replacement = text := by
  simp [replaceAll]

example : replaceAll [1, 1, 1, 2] [1, 1] [3] = [3, 1, 2] := by decide
example : replaceAll "aXbX".toList ['X'] "XX".toList = "aXXbXX".toList := by decide

end Literal

end ChainLaunchers
