/-
Module: ChainLaunchers.Proofs.CommandLine.Precedence
Purpose: Which settings a run has: those of the settings file or the defaults, but for the input
  path and the output directory, for which the options and the environment come first.
Trusted boundary: none
Main exports:
  Settings.Describes, Settings.exists_describes, Settings.load_eq_ok_iff_of_readText,
  Environment.inputPath?, Settings.resolveInput_eq, Options.overriding, Options.generatorOf,
  Options.Obeys, Options.obeys_resultIn, Invocation.runs_with_settings,
  Invocation.obeys_perform
-/
import ChainLaunchers.Proofs.CommandLine.Printing
import ChainLaunchers.Proofs.CommandLine.Variables
import ChainLaunchers.Proofs.Settings.Acceptance
import ChainLaunchers.Proofs.Tree.Deposit

namespace ChainLaunchers

/-! ### Layers of settings -/

namespace Settings

/-- What the settings file at a path says: nothing if there is no file or only white space in it. -/
inductive Describes (tree : Tree) (path : Path) : Draft → Prop where
  | absent (missing : tree.isPresent path = false) : Describes tree path {}
  | blank {text : String} (read : readText tree path = .ok text)
      (blank : Whitespace.isBlankText text = true) : Describes tree path {}
  | document {text : String} {document : Yaml.Document} {named : Draft}
      (read : readText tree path = .ok text) (written : Whitespace.isBlankText text = false)
      (parsed : Yaml.Document.ofText? text = some document)
      (drafted : (draft document).run' 0 = some named) : Describes tree path named

variable {tree : Tree} {path : Path} {loaded : Settings}

theorem ofFile_eq_ok_iff {text : String} (read : readText tree path = .ok text) :
    ofFile tree path = .ok loaded ↔ ofYaml text = .ok loaded := by
  simp only [ofFile, read]
  cases ofYaml text with
  | error fault => exact iff_of_false nofun nofun
  | ok settings => exact Iff.rfl

theorem isPresent_of_readText {text : String} (read : readText tree path = .ok text) :
    tree.isPresent path = true := by
  unfold readText at read
  cases content : tree.readFile path with
  | error cause =>
      rw [content] at read
      cases read
  | ok bytes =>
      obtain ⟨place, located, -⟩ := Tree.readFile_eq_ok_iff.1 content
      rw [Tree.isPresent, located]

/-- Loading a file that can be read comes to what its text describes. -/
theorem load_eq_ok_iff_of_readText {text : String} (read : readText tree path = .ok text) :
    load tree path = .ok loaded ↔ ofYaml text = .ok loaded := by
  rw [load, if_pos (isPresent_of_readText read), ofFile_eq_ok_iff read]

/-- Loaded settings are what the file names, and the defaults for everything else. -/
theorem exists_describes (found : load tree path = .ok loaded) :
    ∃ named, Describes tree path named ∧ loaded = named.complete := by
  cases present : tree.isPresent path with
  | false =>
      rw [load, present, if_neg Bool.false_ne_true] at found
      exact ⟨{}, Describes.absent present, (Except.ok.inj found).symm⟩
  | true =>
      cases read : readText tree path with
      | error cause =>
          rw [load, present, if_pos rfl, ofFile, read] at found
          cases found
      | ok text =>
          rw [load_eq_ok_iff_of_readText read, ofYaml] at found
          split at found
          · rename_i blank
            obtain ⟨-, rfl⟩ := accepted_eq_ok_iff.1 found
            exact ⟨{}, Describes.blank read blank, rfl⟩
          · rename_i written
            split at found
            · rename_i document parsed
              unfold ofDocument at found
              split at found
              · rename_i settings described
                obtain ⟨-, rfl⟩ := accepted_eq_ok_iff.1 found
                obtain ⟨named, drafted, rfl⟩ := Option.map_eq_some_iff.1 described
                exact ⟨named, Describes.document read (Bool.eq_false_iff.2 written) parsed drafted,
                  rfl⟩
              · cases found
            · cases found

end Settings

/-! ### Overrides -/

namespace Environment

/-- The input path that the environment names: the value of its variable, or else the one that an
environment file gives.  An empty value and one that is no text name nothing. -/
def inputPath? (environment : Environment) (given : Option Bytes) : Option Path :=
  ((environment.value? (Utf8.ofString inputVariable)).or given).filter fun value =>
    value ≠ [] && Utf8.isValid value

end Environment

/-- The input path that counts. -/
theorem Settings.resolveInput_eq (settings : Settings) (explicit : Option Path)
    (value : Option Bytes) :
    settings.resolveInput explicit (value.bind Utf8.toString?) =
      { settings with
        input := (explicit.or (value.filter fun value =>
          value ≠ [] && Utf8.isValid value)).getD settings.input } := by
  cases explicit with
  | some path => rfl
  | none =>
      cases value with
      | none => rfl
      | some bytes =>
          rw [Option.bind_some, Option.none_or, Option.filter_some, ← Utf8.isSome_toString?]
          cases read : Utf8.toString? bytes with
          | none => simp [resolveInput]
          | some text =>
              obtain rfl := (Utf8.toString?_eq_some_iff bytes text).1 read
              have empty : Utf8.ofString text = [] ↔ text = "" := by
                rw [Utf8.ofString, Utf8.encode_eq_nil_iff, String.toList_eq_nil_iff]
              by_cases nothing : text = ""
              · subst nothing
                rfl
              · simp [resolveInput, nothing, empty]

namespace Options

/-- The loaded settings, with the two fields that the options and the environment can replace. -/
def overriding (options : Options) (environmentInput : Option Path) (loaded : Settings) :
    Settings :=
  { loaded with
    input := (options.input.or environmentInput).getD loaded.input
    outputDirectory := options.outputDirectory.getD loaded.outputDirectory }

/-- The generator of a run with these settings. -/
def generatorOf (options : Options) (settings : Settings) (marker : Marker) : Generator where
  marker := marker
  rules := settings.rules
  extension := settings.extension
  outputDirectory := settings.outputDirectory
  dryRun := options.dryRun
  keepGoing := options.keepGoing

/-- What an invocation with these options makes of its settings, where an environment file gives
this value to the variable of the input path. -/
structure Obeys (options : Options) (environment : Environment) (given : Option Bytes)
    (tree : Tree) (result : Invocation.Result) : Prop where
  /-- With settings that do not load the run fails, whatever the overrides, and reads and writes
  nothing else. -/
  refused : ∀ fault, Settings.load tree options.settingsPath = .error fault →
    result = ⟨Settings.loadEvents tree options.settingsPath, 1, "",
      some ("Error: " ++ fault.message), tree⟩ ∧ ∀ path, Event.reading path ∉ result.events
  /-- With settings that load, the invocation is the run of their generator over their input, after
  the input path and the output directory have been replaced. -/
  effective : ∀ loaded, Settings.load tree options.settingsPath = .ok loaded →
    ∃ marker, Marker.ofString? loaded.marker = some marker ∧
      let settings := options.overriding (environment.inputPath? given) loaded
      let completion := options.conclude
        ((options.generatorOf settings marker).runFile settings.input tree)
      completion.events <:+ result.events ∧ result.status = completion.status ∧
        result.output = completion.output ∧ result.error = completion.errorText? ∧
        result.tree = completion.tree
  /-- Loaded settings are those of the file, where it names them, and else the defaults. -/
  layered : ∀ loaded, Settings.load tree options.settingsPath = .ok loaded →
    ∃ named, Settings.Describes tree options.settingsPath named ∧ loaded = named.complete
  /-- A file that can be read is loaded as its text is. -/
  existing : ∀ text, Settings.readText tree options.settingsPath = .ok text → ∀ loaded,
    Settings.load tree options.settingsPath = .ok loaded ↔ Settings.ofYaml text = .ok loaded

variable {options : Options} {environmentInput : Option String} {tree : Tree}
  {loaded settings : Settings}

/-- Acceptable settings have a generator with all that they say. -/
theorem generator_eq_generatorOf {generator : Generator}
    (made : options.generator settings = .ok generator) :
    ∃ marker, Marker.ofString? settings.marker = some marker ∧
      generator = options.generatorOf settings marker := by
  obtain ⟨base, found, rfl⟩ := generator_eq_ok_iff.1 made
  unfold Generator.ofSettings at found
  split at found
  · cases found
  · split at found
    · cases found
    · rename_i marker named
      obtain rfl := Except.ok.inj found
      exact ⟨marker, named, rfl⟩

/-- A run whose settings do not load does nothing else. -/
theorem perform_of_load_error {fault : SettingsFault}
    (faulty : Settings.load tree options.settingsPath = .error fault) :
    options.perform environmentInput tree =
      ⟨Settings.loadEvents tree options.settingsPath, tree, "", .error (.settings fault)⟩ := by
  have unset : options.effectiveSettings environmentInput tree = .error fault := by
    rw [effectiveSettings, faulty]
    rfl
  simp only [perform, performBy, unset]

theorem obeys_resultIn (options : Options) {environment completed : Environment}
    {given : Option Bytes}
    (completes : environment.CompletedBy (Utf8.ofString inputVariable) given completed)
    (tree : Tree) : options.Obeys environment given tree (options.resultIn completed tree) := by
  constructor
  · intro fault faulty
    rw [resultIn, perform_of_load_error faulty]
    refine ⟨rfl, ?_⟩
    intro path mem
    simp only [Settings.loadEvents] at mem
    split at mem
    · cases List.mem_singleton.1 mem
    · cases List.mem_singleton.1 mem
  · intro loaded found
    have effective : options.effectiveSettings (completed.text? inputVariable) tree =
        .ok (options.overriding (environment.inputPath? given) loaded) := by
      refine effectiveSettings_eq_ok_iff.2 ⟨loaded, found, ?_⟩
      rw [Environment.text?, completes, Settings.resolveInput_eq]
      rfl
    obtain ⟨generator, made⟩ := exists_generator effective
    obtain ⟨marker, named, rfl⟩ := generator_eq_generatorOf made
    obtain ⟨told, performed⟩ := performBy_of_made Report.toJson effective made
    refine ⟨marker, named, ?_⟩
    rw [resultIn, perform, performed]
    exact ⟨List.suffix_append _ _, rfl, rfl, rfl, rfl⟩
  · intro loaded found
    exact Settings.exists_describes found
  · intro text read loaded
    exact Settings.load_eq_ok_iff_of_readText read

end Options

namespace Invocation

/-- An invocation runs with the loaded settings, in which only the input path and the output
directory give way: to the options first, and for the input path then to the environment, where a
variable that is there hides the one of the environment file. -/
theorem runs_with_settings {complete? : Environment → Tree → Option Environment}
    {arguments : List Bytes} {options : Options}
    (parsed : Request.ofArguments arguments = .run options) {environment completed : Environment}
    {tree : Tree} (completion : complete? environment tree = some completed)
    {given : Option Bytes}
    (completes : environment.CompletedBy (Utf8.ofString inputVariable) given completed) :
    options.Obeys environment given tree (performBy complete? arguments environment tree) := by
  simp only [performBy, completion, parsed]
  exact options.obeys_resultIn completes tree

/-- A working directory with an environment file that names an input path. -/
def suggesting : Tree :=
  Tree.root.put [] environmentFileName
    (.file (Utf8.ofString "export ASSETCHAIN_GEN_INPUT='other list' # not assetchains.old\n"))

/-- The variable is there but empty, so that neither it nor the file names an input path. -/
theorem runs_with_settings_of_empty_variable :
    Environment.inputPath? [(Utf8.ofString inputVariable, [])]
        (some (Utf8.ofString "other list")) = none ∧
      Options.Obeys { outputDirectory := some (Utf8.ofString "out") }
        [(Utf8.ofString inputVariable, [])] (some (Utf8.ofString "other list")) suggesting
        (perform [Utf8.ofString "-oout"] [(Utf8.ofString inputVariable, [])] suggesting) := by
  have kept : Environment.extended? [(Utf8.ofString inputVariable, [])] suggesting =
      some [(Utf8.ofString inputVariable, [])] := by decide +kernel
  have completes : Environment.CompletedBy [(Utf8.ofString inputVariable, [])]
      (Utf8.ofString inputVariable) (some (Utf8.ofString "other list"))
      [(Utf8.ofString inputVariable, [])] := rfl
  exact ⟨by decide, runs_with_settings (by decide) kept completes⟩

/-- An invocation takes the value of the nearest environment file, unless the variable has one.
Here that has to be a text, because any other value gives way to the file. -/
theorem obeys_perform {arguments : List Bytes} {options : Options}
    (parsed : Request.ofArguments arguments = .run options) {environment completed : Environment}
    {tree : Tree} (completion : environment.extended? tree = some completed)
    (readable : environment.IsReadable (Utf8.ofString inputVariable)) :
    options.Obeys environment (environment.fileValue? tree inputVariable.toList) tree
      (perform arguments environment tree) := by
  have named : EnvironmentFile.IsVariable inputVariable.toList := ⟨by decide, by decide⟩
  have completes := Environment.completedBy_extended named readable completion
  simp only [perform, performBy, completion, parsed]
  exact options.obeys_resultIn completes tree

end Invocation

end ChainLaunchers
