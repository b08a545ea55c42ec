/-
Module: ChainLaunchers.Proofs.Settings.Validation
Purpose: Which settings have a generator, and which fault the others are refused for; that all
  loaded settings have one, also after the input path and the output directory are replaced.
Trusted boundary: none
Main exports:
  Settings.IsAcceptable, Settings.FirstFault, Settings.validate_eq_ok_iff,
  Settings.validate_eq_error_iff, Settings.ValidatesExactly, Settings.validates_exactly
-/
import ChainLaunchers.Proofs.Settings.Acceptance

namespace ChainLaunchers

/-! ### Rules without a literal -/

theorem Rule.firstEmpty?_eq_none_iff {rules : List Rule} :
    firstEmpty? rules = none ↔ ∀ rule ∈ rules, rule.pattern ≠ "" := by
  rw [firstEmpty?, Option.map_eq_none_iff, List.findIdx?_eq_none_iff]
  simp only [decide_eq_false_iff_not, ne_eq]

/-- The position of a rule, counted from 0, whose literal is empty and is the first such. -/
def Rule.IsFirstEmpty (rules : List Rule) (position : Nat) : Prop :=
  (∃ rule, rules[position]? = some rule ∧ rule.pattern = "") ∧
    ∀ earlier < position, ∀ rule, rules[earlier]? = some rule → rule.pattern ≠ ""

theorem Rule.IsFirstEmpty.firstEmpty? {rules : List Rule} {position : Nat}
    (first : IsFirstEmpty rules position) : Rule.firstEmpty? rules = some (position + 1) := by
  obtain ⟨⟨rule, found, empty⟩, earlier⟩ := first
  obtain ⟨within, rfl⟩ := List.getElem?_eq_some_iff.1 found
  rw [Rule.firstEmpty?, List.findIdx?_eq_some_iff_getElem.2]
  · rfl
  · refine ⟨within, decide_eq_true empty, ?_⟩
    intro before less
    have full := earlier before less _ (List.getElem?_eq_getElem (Nat.lt_trans less within))
    simpa using full

theorem Rule.exists_isFirstEmpty {rules : List Rule} {rule : Rule} (mem : rule ∈ rules)
    (empty : rule.pattern = "") : ∃ position, IsFirstEmpty rules position := by
  cases found : rules.findIdx? fun rule => rule.pattern = "" with
  | none =>
      have full := List.findIdx?_eq_none_iff.1 found rule mem
      exact absurd empty (of_decide_eq_false full)
  | some position =>
      obtain ⟨within, here, earlier⟩ := List.findIdx?_eq_some_iff_getElem.1 found
      refine ⟨position, ⟨_, List.getElem?_eq_getElem within, of_decide_eq_true here⟩, ?_⟩
      intro before less other at'
      obtain ⟨_, rfl⟩ := List.getElem?_eq_some_iff.1 at'
      simpa using earlier before less

namespace Settings

/-! ### Acceptable settings -/

/-- An extension that could lead out of the output directory, or hide the file. -/
def IsUnfitExtension (extension : String) : Prop :=
  '/' ∈ extension.toList ∨ '\\' ∈ extension.toList ∨ extension.toList.head? = some '.'

theorem isBareExtension_eq_false_iff {extension : String} :
    isBareExtension extension = false ↔ IsUnfitExtension extension := by
  rw [isBareExtension, Bool.and_eq_false_iff, Bool.not_eq_false', List.any_eq_true,
    decide_eq_false_iff_not, not_not, IsUnfitExtension, ← or_assoc]
  refine or_congr_left ?_
  constructor
  · rintro ⟨character, mem, separates⟩
    rcases Bool.or_eq_true _ _ ▸ separates with same | same
    · obtain rfl := of_decide_eq_true same
      exact Or.inl mem
    · obtain rfl := of_decide_eq_true same
      exact Or.inr mem
  · rintro (mem | mem)
    · exact ⟨_, mem, rfl⟩
    · exact ⟨_, mem, rfl⟩

/-- The conditions on settings. -/
structure IsAcceptable (settings : Settings) : Prop where
  marker : settings.marker ≠ ""
  extension : settings.extension ≠ ""
  bare : ¬IsUnfitExtension settings.extension
  literals : ∀ rule ∈ settings.rules, rule.pattern ≠ ""

/-- The fault of the first condition, in their order, that settings do not meet. -/
inductive FirstFault (settings : Settings) : SettingsFault → Prop where
  | marker (empty : settings.marker = "") : FirstFault settings .emptyMarker
  | extension (marker : settings.marker ≠ "") (empty : settings.extension = "") :
      FirstFault settings .emptyExtension
  | bare (marker : settings.marker ≠ "") (extension : settings.extension ≠ "")
      (unfit : IsUnfitExtension settings.extension) :
      FirstFault settings (.extensionNotBare settings.extension)
  | literal (marker : settings.marker ≠ "") (extension : settings.extension ≠ "")
      (bare : ¬IsUnfitExtension settings.extension) {position : Nat}
      (first : Rule.IsFirstEmpty settings.rules position) :
      FirstFault settings (.emptyLiteral (position + 1))

variable {settings : Settings}

theorem isAcceptable_or_firstFault (settings : Settings) :
    settings.IsAcceptable ∨ ∃ fault, settings.FirstFault fault := by
  by_cases marker : settings.marker = ""
  · exact Or.inr ⟨_, FirstFault.marker marker⟩
  by_cases extension : settings.extension = ""
  · exact Or.inr ⟨_, FirstFault.extension marker extension⟩
  by_cases unfit : IsUnfitExtension settings.extension
  · exact Or.inr ⟨_, FirstFault.bare marker extension unfit⟩
  by_cases literals : ∀ rule ∈ settings.rules, rule.pattern ≠ ""
  · exact Or.inl ⟨marker, extension, unfit, literals⟩
  · push Not at literals
    obtain ⟨rule, mem, empty⟩ := literals
    obtain ⟨position, first⟩ := Rule.exists_isFirstEmpty mem empty
    exact Or.inr ⟨_, FirstFault.literal marker extension unfit first⟩

theorem isBareExtension_of_not_unfit {extension : String} (fit : ¬IsUnfitExtension extension) :
    isBareExtension extension = true := by
  rwa [← Bool.not_eq_false, isBareExtension_eq_false_iff]

theorem IsAcceptable.validate (acceptable : settings.IsAcceptable) :
    settings.validate = .ok () := by
  rw [Settings.validate, if_neg acceptable.marker, if_neg acceptable.extension,
    isBareExtension_of_not_unfit acceptable.bare, validateRules,
    Rule.firstEmpty?_eq_none_iff.2 acceptable.literals]
  rfl

theorem FirstFault.validate {fault : SettingsFault} (first : settings.FirstFault fault) :
    settings.validate = .error fault := by
  cases first with
  | marker empty => rw [Settings.validate, if_pos empty]
  | extension marker empty => rw [Settings.validate, if_neg marker, if_pos empty]
  | bare marker extension unfit =>
      rw [Settings.validate, if_neg marker, if_neg extension, isBareExtension_eq_false_iff.2 unfit]
      rfl
  | literal marker extension bare first =>
      rw [Settings.validate, if_neg marker, if_neg extension, isBareExtension_of_not_unfit bare,
        validateRules, first.firstEmpty?]
      rfl

/-- Validation accepts exactly the settings that meet all conditions. -/
theorem validate_eq_ok_iff : settings.validate = .ok () ↔ settings.IsAcceptable := by
  refine ⟨?_, IsAcceptable.validate⟩
  intro valid
  rcases isAcceptable_or_firstFault settings with acceptable | ⟨fault, first⟩
  · exact acceptable
  · cases valid.symm.trans first.validate

/-- Validation refuses settings for the first condition that they do not meet. -/
theorem validate_eq_error_iff {fault : SettingsFault} :
    settings.validate = .error fault ↔ settings.FirstFault fault := by
  refine ⟨?_, FirstFault.validate⟩
  intro refused
  rcases isAcceptable_or_firstFault settings with acceptable | ⟨other, first⟩
  · cases refused.symm.trans acceptable.validate
  · obtain rfl := Except.error.inj (refused.symm.trans first.validate)
    exact first

/-! ### Generators -/

theorem exists_ofSettings_iff :
    (∃ generator, Generator.ofSettings settings = .ok generator) ↔
      settings.validate = .ok () := by
  constructor
  · rintro ⟨generator, made⟩
    exact (Generator.ofSettings_eq_ok made).1
  · exact Generator.exists_ofSettings

/-- A generator is refused for the faults of validation only: there is a marker to search for
whenever validation succeeds. -/
theorem ofSettings_eq_error_iff {fault : SettingsFault} :
    Generator.ofSettings settings = .error fault ↔ settings.validate = .error fault := by
  cases valid : settings.validate with
  | error other =>
      rw [Generator.ofSettings, valid, Except.error.injEq, Except.error.injEq]
  | ok _ =>
      obtain ⟨generator, made⟩ := Generator.exists_ofSettings valid
      simp only [made, reduceCtorEq]

/-- What is checked of settings, on every way from a text to a generator. -/
structure ValidatesExactly (settings : Settings) : Prop where
  /-- There is a generator exactly for acceptable settings. -/
  accepted : (∃ generator, Generator.ofSettings settings = .ok generator) ↔ settings.IsAcceptable
  /-- All others are refused for the first condition that they do not meet. -/
  refused : ∀ fault, Generator.ofSettings settings = .error fault ↔ settings.FirstFault fault
  /-- Of these faults, only the one of a rule without a literal is a fault of the rules. -/
  kinds : ∀ fault, settings.FirstFault fault →
    (fault.isAboutRules = true ↔ ∃ position, fault = .emptyLiteral position)
  /-- Settings are acceptable wherever they come from. -/
  described : ∀ document, ofDocument document = .ok settings → settings.IsAcceptable
  written : ∀ text, ofYaml text = .ok settings → settings.IsAcceptable
  stored : ∀ tree path, ofFile tree path = .ok settings → settings.IsAcceptable
  loaded : ∀ tree path, load tree path = .ok settings → settings.IsAcceptable
  /-- They keep their generator whatever paths they are given afterwards. -/
  overridden : settings.IsAcceptable → ∀ explicit environment input outputDirectory,
    ∃ generator, Generator.ofSettings
      { settings.resolveInput explicit environment with input, outputDirectory } = .ok generator

/-- Validation is exact, no way of loading settings goes around it, and later overrides cannot
undo it. -/
theorem validates_exactly (settings : Settings) : settings.ValidatesExactly := by
  constructor
  · rw [exists_ofSettings_iff, validate_eq_ok_iff]
  · intro fault
    rw [ofSettings_eq_error_iff, validate_eq_error_iff]
  · intro fault first
    cases first with
    | marker empty => exact iff_of_false nofun nofun
    | extension marker empty => exact iff_of_false nofun nofun
    | bare marker extension unfit => exact iff_of_false nofun nofun
    | literal marker extension bare first => exact iff_of_true rfl ⟨_, rfl⟩
  · intro document found
    exact validate_eq_ok_iff.1 (validate_of_ofDocument found)
  · intro text found
    exact validate_eq_ok_iff.1 (validate_of_ofYaml found)
  · intro tree path found
    exact validate_eq_ok_iff.1 (validate_of_ofFile found)
  · intro tree path found
    exact validate_eq_ok_iff.1 (validate_of_load found)
  · intro acceptable explicit environment input outputDirectory
    have resolved := validate_resolveInput settings explicit environment
    rw [acceptable.validate] at resolved
    exact Generator.exists_ofSettings resolved

end Settings

end ChainLaunchers
