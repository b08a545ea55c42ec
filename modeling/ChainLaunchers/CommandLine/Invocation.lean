/-
Module: ChainLaunchers.CommandLine.Invocation
Purpose: A whole invocation: arguments, environment and tree in; status, output and tree out.
Trusted boundary: the texts of the help and of the usage, which restate those of the parser of
  command lines in use.
Main exports:
  Options.effectiveSettings, Options.generator, Completion, Options.conclude, Options.performBy,
  Options.perform, Completion.errorText?, Completion.status, Invocation.Result, Options.resultIn,
  Invocation.performBy, Invocation.perform
-/
import ChainLaunchers.CommandLine.Options
import ChainLaunchers.CommandLine.Environment
import ChainLaunchers.Run.Basic
import ChainLaunchers.Run.ReportText
import ChainLaunchers.Settings.Load

namespace ChainLaunchers

/-! ### The run that the options ask for -/

namespace Options

/-- The settings of a run: those of the settings file, but with the input path that counts, and
with the output directory of the options if they name one. -/
def effectiveSettings (options : Options) (environmentInput : Option String) (tree : Tree) :
    Except SettingsFault Settings := do
  let loaded ← Settings.load tree options.settingsPath
  let resolved := loaded.resolveInput options.input environmentInput
  return { resolved with
    outputDirectory := options.outputDirectory.getD resolved.outputDirectory }

/-- The generator of a run. -/
def generator (options : Options) (settings : Settings) : Except SettingsFault Generator := do
  let generator ← Generator.ofSettings settings
  return { generator with dryRun := options.dryRun, keepGoing := options.keepGoing }

end Options

/-- How a run has ended. -/
structure Completion where
  /-- What was told on the way. -/
  events : List Event
  tree : Tree
  /-- What was printed. -/
  output : String
  result : Except Failure Report

namespace Options

/-! Reports are printed as JSON.  The way of printing is an argument all the same, because a run
depends on nothing but whether it fails. -/

/-- The report as `print` prints it, if the options ask for it. -/
def printedBy (print : Report → Except ReportFault String) (options : Options) (report : Report) :
    Except ReportFault String :=
  if options.reportJson then (print report).map fun text => text ++ "\n" else .ok ""

/-- The end of a run with the given outcome: a report that cannot be printed is a failure. -/
def concludeBy (print : Report → Except ReportFault String) (options : Options)
    (outcome : Outcome) : Completion :=
  match outcome.result with
  | .error failure => ⟨outcome.events, outcome.tree, "", .error failure⟩
  | .ok report =>
    match options.printedBy print report with
    | .error fault => ⟨outcome.events, outcome.tree, "", .error (.report fault)⟩
    | .ok output => ⟨outcome.events, outcome.tree, output, .ok report⟩

/-- The end of a run that prints its report as JSON. -/
def conclude (options : Options) (outcome : Outcome) : Completion :=
  options.concludeBy Report.toJson outcome

/-- The run that the options ask for, once the settings are known. -/
def performWith (print : Report → Except ReportFault String) (options : Options)
    (settings : Settings) (tree : Tree) : Completion :=
  match options.generator settings with
  | .error fault => ⟨[], tree, "", .error (.settings fault)⟩
  | .ok generator => options.concludeBy print (generator.runFile settings.input tree)

/-- The run that the options ask for, with its report printed by `print`. -/
def performBy (print : Report → Except ReportFault String) (options : Options)
    (environmentInput : Option String) (tree : Tree) : Completion :=
  let loading := Settings.loadEvents tree options.settingsPath
  match options.effectiveSettings environmentInput tree with
  | .error fault => ⟨loading, tree, "", .error (.settings fault)⟩
  | .ok settings =>
    let completion := options.performWith print settings tree
    { completion with
      events := loading ++ Settings.resolveEvents options.input environmentInput ++
        completion.events }

/-- Performs the run that the options ask for. -/
def perform (options : Options) (environmentInput : Option String) (tree : Tree) : Completion :=
  options.performBy Report.toJson environmentInput tree

end Options

namespace Completion

/-- The error that a run ends with, as it is printed. -/
def errorText? (completion : Completion) : Option String :=
  match completion.result with
  | .error failure => some ("Error: " ++ failure.message)
  | .ok report =>
    if report.hasFailures then
      some ("Error: " ++ toString report.failed.length ++ " file(s) could not be written")
    else none

/-- The exit status of a run: 0 if everything was written, else 1. -/
def status (completion : Completion) : Nat := if completion.errorText?.isSome then 1 else 0

end Completion

/-! ### Invocations -/

namespace Invocation

/-- The version of this program. -/
def version : String := "assetchain-gen 0.1.0\n"

/-- The help on the options. -/
def help : String :=
  "Generate per-chain .cmd launchers from an assetchains command list\n\n" ++
  "Usage: assetchain-gen [OPTIONS]\n\n" ++
  "Options:\n" ++
  "  -i, --input <INPUT>            Command list to read (default: assetchains.old)\n" ++
  "  -o, --output-dir <OUTPUT_DIR>  Directory for generated files (default: working directory)\n" ++
  "  -c, --config <CONFIG>          YAML configuration file, used only if it exists " ++
  "[default: assetchain-gen.yaml]\n" ++
  "      --dry-run                  Show what would be written without touching " ++
  "the filesystem\n" ++
  "      --keep-going               Continue past failed writes; still exits non-zero " ++
  "at the end\n" ++
  "      --report-json              Print the run report as JSON on stdout\n" ++
  "  -h, --help                     Print help\n" ++
  "  -V, --version                  Print version\n"

/-- What a misused command line is answered with. -/
def usage : String := "Usage: assetchain-gen [OPTIONS]\n\nFor more information, try '--help'.\n"

/-- The status of a misused command line. -/
def misuseStatus : Nat := 2

/-- The status of an invocation that cannot have its environment. -/
def noEnvironmentStatus : Nat := 101

/-- What is said when there is no environment. -/
def noEnvironment : String := "an environment variable cannot hold the null byte\n"

/-- What an invocation leaves. -/
structure Result where
  events : List Event
  status : Nat
  output : String
  /-- The error text, unless there is no error. -/
  error : Option String
  tree : Tree

end Invocation

/-- What an invocation leaves that asks for a run, once its environment is complete. -/
def Options.resultIn (options : Options) (completed : Environment) (tree : Tree) :
    Invocation.Result :=
  let completion := options.perform (completed.text? inputVariable) tree
  ⟨completion.events, completion.status, completion.output, completion.errorText?,
    completion.tree⟩

namespace Invocation

/-- An invocation with the given arguments, whose environment is completed by `complete?`.  This
comes before the arguments are looked at. -/
def performBy (complete? : Environment → Tree → Option Environment) (arguments : List Bytes)
    (environment : Environment) (tree : Tree) : Result :=
  match complete? environment tree with
  | none => ⟨[], noEnvironmentStatus, "", some noEnvironment, tree⟩
  | some completed =>
    match Request.ofArguments arguments with
    | .help => ⟨[], 0, help, none, tree⟩
    | .version => ⟨[], 0, version, none, tree⟩
    | .misuse => ⟨[], misuseStatus, "", some usage, tree⟩
    | .run options => options.resultIn completed tree

/-- An invocation with the given arguments.  Its environment is completed by the nearest
environment file. -/
def perform (arguments : List Bytes) (environment : Environment) (tree : Tree) : Result :=
  performBy Environment.extended? arguments environment tree

end Invocation

end ChainLaunchers
