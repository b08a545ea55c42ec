/-
Module: ChainLaunchers.Proofs.CommandLine.Printing
Purpose: How a run goes whose settings load, however its report is printed.
Trusted boundary: none
Main exports:
  Options.performBy_of_made, Options.tree_concludeBy
-/
import ChainLaunchers.CommandLine.Invocation

namespace ChainLaunchers

namespace Options

variable {options : Options} {environmentInput : Option String} {tree : Tree}
  {settings : Settings} {generator : Generator}

/-- A run whose settings load tells something about them, ends as its generator does, and then its
report is printed. -/
theorem performBy_of_made (print : Report → Except ReportFault String)
    (loaded : options.effectiveSettings environmentInput tree = .ok settings)
    (made : options.generator settings = .ok generator) :
    ∃ told, options.performBy print environmentInput tree =
      let completion := options.concludeBy print (generator.runFile settings.input tree)
      { completion with events := told ++ completion.events } := by
  refine ⟨Settings.loadEvents tree options.settingsPath ++
    Settings.resolveEvents options.input environmentInput, ?_⟩
  simp only [performBy, performWith, loaded, made]

theorem tree_concludeBy (print : Report → Except ReportFault String) (options : Options)
    (outcome : Outcome) : (options.concludeBy print outcome).tree = outcome.tree := by
  unfold concludeBy
  split
  · rfl
  · split
    · rfl
    · rfl

end Options

end ChainLaunchers
