/-
Module: ChainLaunchers.Proofs.Settings.Acceptance
Purpose: Settings that have been loaded are acceptable, and stay so when the input path and the
  output directory are replaced.
Trusted boundary: none
Main exports:
  Settings.validate_of_ofDocument, Settings.validate_of_ofYaml, Settings.validate_of_ofFile,
  Settings.validate_of_load,
  Options.validate_of_effectiveSettings, Options.exists_generator
-/
import ChainLaunchers.CommandLine.Invocation
import ChainLaunchers.Proofs.Generator.FileName

namespace ChainLaunchers

namespace Settings

/-! ### Loaded settings -/

theorem accepted_eq_ok_iff {settings kept : Settings} :
    settings.accepted = .ok kept ↔ settings.validate = .ok () ∧ settings = kept := by
  unfold accepted
  cases settings.validate with
  | error fault => exact iff_of_false nofun nofun
  | ok _ =>
      constructor
      · intro found
        exact ⟨rfl, Except.ok.inj found⟩
      · rintro ⟨-, rfl⟩
        rfl

theorem accepted_eq_error_iff {settings : Settings} {fault : SettingsFault} :
    settings.accepted = .error fault ↔ settings.validate = .error fault := by
  unfold accepted
  cases settings.validate with
  | error other =>
      constructor
      · intro found
        rw [Except.error.inj found]
      · intro found
        rw [Except.error.inj found]
        rfl
  | ok _ => exact iff_of_false nofun nofun

theorem validate_of_accepted {settings kept : Settings} (found : settings.accepted = .ok kept) :
    kept.validate = .ok () := by
  obtain ⟨valid, rfl⟩ := accepted_eq_ok_iff.1 found
  exact valid

theorem validate_of_ofDocument {document : Yaml.Document} {settings : Settings}
    (found : ofDocument document = .ok settings) : settings.validate = .ok () := by
  unfold ofDocument at found
  split at found
  · exact validate_of_accepted found
  · cases found

theorem validate_of_ofYaml {text : String} {settings : Settings}
    (found : ofYaml text = .ok settings) : settings.validate = .ok () := by
  unfold ofYaml at found
  split at found
  · exact validate_of_accepted found
  · split at found
    · exact validate_of_ofDocument found
    · cases found

theorem validate_of_ofFile {tree : Tree} {path : Path} {settings : Settings}
    (found : ofFile tree path = .ok settings) : settings.validate = .ok () := by
  unfold ofFile at found
  split at found
  · cases found
  · split at found
    · cases found
    · rename_i read
      obtain rfl := Except.ok.inj found
      exact validate_of_ofYaml read

theorem validate_of_load {tree : Tree} {path : Path} {settings : Settings}
    (found : load tree path = .ok settings) : settings.validate = .ok () := by
  unfold load at found
  split at found
  · exact validate_of_ofFile found
  · obtain rfl := Except.ok.inj found
    exact validate_standard

/-- The input path takes no part in validation. -/
theorem validate_resolveInput (settings : Settings) (explicit : Option Path)
    (environment : Option String) :
    (settings.resolveInput explicit environment).validate = settings.validate := by
  unfold resolveInput
  split
  · rfl
  · split
    · split
      · rfl
      · rfl
    · rfl

end Settings

namespace Options

/-! ### Settings of a run -/

variable {options : Options} {environmentInput : Option String} {tree : Tree}
  {settings : Settings}

/-- The settings of a run are those that were loaded, with the input path and the output directory
that count. -/
theorem effectiveSettings_eq_ok_iff :
    options.effectiveSettings environmentInput tree = .ok settings ↔
      ∃ loaded, Settings.load tree options.settingsPath = .ok loaded ∧
        settings = { loaded.resolveInput options.input environmentInput with
          outputDirectory := options.outputDirectory.getD
            (loaded.resolveInput options.input environmentInput).outputDirectory } := by
  unfold effectiveSettings
  cases Settings.load tree options.settingsPath with
  | error fault => exact iff_of_false nofun nofun
  | ok loaded =>
      constructor
      · intro found
        exact ⟨loaded, rfl, (Except.ok.inj found).symm⟩
      · rintro ⟨_, same, rfl⟩
        obtain rfl := Except.ok.inj same
        rfl

theorem validate_of_effectiveSettings
    (found : options.effectiveSettings environmentInput tree = .ok settings) :
    settings.validate = .ok () := by
  obtain ⟨loaded, load, rfl⟩ := effectiveSettings_eq_ok_iff.1 found
  rw [← Settings.validate_of_load load,
    ← Settings.validate_resolveInput loaded options.input environmentInput]
  rfl

theorem generator_eq_ok_iff {generator : Generator} :
    options.generator settings = .ok generator ↔
      ∃ base, Generator.ofSettings settings = .ok base ∧
        generator = { base with dryRun := options.dryRun, keepGoing := options.keepGoing } := by
  unfold Options.generator
  cases Generator.ofSettings settings with
  | error fault => exact iff_of_false nofun nofun
  | ok base =>
      constructor
      · intro found
        exact ⟨base, rfl, (Except.ok.inj found).symm⟩
      · rintro ⟨_, same, rfl⟩
        obtain rfl := Except.ok.inj same
        rfl

/-- The generator of a run comes from accepted settings, and takes its flags from the options. -/
theorem isAccepted_of_generator {generator : Generator}
    (made : options.generator settings = .ok generator) :
    generator.IsAccepted ∧ generator.dryRun = options.dryRun ∧
      generator.keepGoing = options.keepGoing := by
  obtain ⟨base, found, rfl⟩ := generator_eq_ok_iff.1 made
  exact ⟨⟨settings, base, found, rfl⟩, rfl, rfl⟩

/-- Whenever there are settings for a run, there is a generator for it. -/
theorem exists_generator (found : options.effectiveSettings environmentInput tree = .ok settings) :
    ∃ generator, options.generator settings = .ok generator := by
  obtain ⟨base, made⟩ := Generator.exists_ofSettings (validate_of_effectiveSettings found)
  exact ⟨_, generator_eq_ok_iff.2 ⟨base, made, rfl⟩⟩

end Options

end ChainLaunchers
