/-
Module: ChainLaunchers.Rule
Purpose: Rules that replace or remove a literal, and what a list of them does to a line.
Trusted boundary: none
Main exports:
  Rule, Rule.pattern, Rule.apply, Rule.applyAll, Rule.standard
-/
import ChainLaunchers.Literal
import ChainLaunchers.Text.Utf8

namespace ChainLaunchers

/-- One step in making a launcher of a line. -/
inductive Rule where
  /-- Every occurrence of `pattern` becomes `replacement`. -/
  | replace (pattern replacement : String)
  /-- Every occurrence of `pattern` is deleted. -/
  | remove (pattern : String)
deriving Repr, DecidableEq, Inhabited

namespace Rule

/-- The literal that the rule searches for. -/
def pattern : Rule → String
  | .replace pattern _ => pattern
  | .remove pattern => pattern

/-- The text that takes the place of an occurrence. -/
def replacement : Rule → String
  | .replace _ replacement => replacement
  | .remove _ => ""

/-- What the rule makes of a line. -/
def apply (rule : Rule) (line : Bytes) : Bytes :=
  Literal.replaceAll line (Utf8.ofString rule.pattern) (Utf8.ofString rule.replacement)

/-- The rules in their order, each on the result of the one before. -/
def applyAll (rules : List Rule) (line : Bytes) : Bytes :=
  rules.foldl (fun text rule => rule.apply text) line

/-- The position, counted from 1, of the first rule with an empty literal. -/
def firstEmpty? (rules : List Rule) : Option Nat :=
  (rules.findIdx? fun rule => rule.pattern = "").map (· + 1)

/-- The command that starts a chain on the generated side. -/
def startCommand : String := "start ..\\KomodoOceanGUI.exe "

/-- The rules that are in force unless the settings bring their own: start the graphical
program instead of the daemon, and drop what only a shell understands. -/
def standard : List Rule :=
  [.replace "./komodod " startCommand, .remove "&", .remove "$1", .remove "-pubkey=$pubkey "]

@[simp] theorem applyAll_nil (line : Bytes) : applyAll [] line = line := rfl

@[simp] theorem applyAll_cons (rule : Rule) (rules : List Rule) (line : Bytes) :
    applyAll (rule :: rules) line = applyAll rules (rule.apply line) := rfl

theorem applyAll_append (first second : List Rule) (line : Bytes) :
    applyAll (first ++ second) line = applyAll second (applyAll first line) := by
  simp [applyAll]

/-- What each of the rules preserves, all of them in a row preserve. -/
theorem applyAll_induction (motive : Bytes → Prop) {rules : List Rule} {line : Bytes}
    (start : motive line)
    (step : ∀ rule ∈ rules, ∀ text, motive text → motive (rule.apply text)) :
    motive (applyAll rules line) := by
  apply List.foldlRecOn rules _ start
  intro text holds rule mem
  exact step rule mem text holds

end Rule

end ChainLaunchers
