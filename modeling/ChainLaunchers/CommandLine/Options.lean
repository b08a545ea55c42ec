/-
Module: ChainLaunchers.CommandLine.Options
Purpose: What the arguments of the command line ask for.
Trusted boundary: the grammar of arguments, which restates that of the library that the command
  line is read with.
Main exports:
  Options, Request, Request.ofArguments
-/
import ChainLaunchers.Path

namespace ChainLaunchers

/-!
Arguments are read from left to right, up to the first one that asks for the help or the
version, or that is misused.  A switch has no value.  An option has one: the next argument,
unless that looks like a switch, or what is attached to it, after an equals sign for the long
names and with or without one for the short names.  Values are not empty.  Nothing may be given
twice, names are not abbreviated, and there are no arguments besides.
-/

/-- The settings file that is looked for if none is named. -/
def standardSettingsPath : Path := Utf8.ofString "assetchain-gen.yaml"

/-- What the command line says about a run. -/
structure Options where
  input : Option Path := none
  outputDirectory : Option Path := none
  settingsFile : Option Path := none
  dryRun : Bool := false
  keepGoing : Bool := false
  reportJson : Bool := false
deriving Repr, DecidableEq, Inhabited

/-- The settings file to look for. -/
def Options.settingsPath (options : Options) : Path :=
  options.settingsFile.getD standardSettingsPath

/-- What the arguments ask for. -/
inductive Request where
  | run (options : Options)
  | help
  | version
  | misuse
deriving Repr, DecidableEq, Inhabited

namespace Options

/-- The options that take a value. -/
inductive Valued where
  | input
  | outputDirectory
  | settingsFile
deriving Repr, DecidableEq

/-- The options that take none. -/
inductive Switch where
  | dryRun
  | keepGoing
  | reportJson
deriving Repr, DecidableEq

/-- Gives an option its value, unless that is empty or there is one already. -/
def setValue? (options : Options) (option : Valued) (value : Path) : Option Options :=
  if value = [] then none
  else
    match option with
    | .input => if options.input.isSome then none else some { options with input := some value }
    | .outputDirectory =>
      if options.outputDirectory.isSome then none
      else some { options with outputDirectory := some value }
    | .settingsFile =>
      if options.settingsFile.isSome then none
      else some { options with settingsFile := some value }

/-- Turns a switch on, unless it is on already. -/
def turnOn? (options : Options) (switch : Switch) : Option Options :=
  match switch with
  | .dryRun => if options.dryRun then none else some { options with dryRun := true }
  | .keepGoing => if options.keepGoing then none else some { options with keepGoing := true }
  | .reportJson => if options.reportJson then none else some { options with reportJson := true }

end Options

/-! ### Single arguments -/

/-- An argument by itself. -/
inductive Argument where
  /-- An option and its attached value. -/
  | attached (option : Options.Valued) (value : Bytes)
  /-- An option whose value comes next. -/
  | awaiting (option : Options.Valued)
  | switch (switch : Options.Switch)
  | help
  | version
  /-- The end of the options. -/
  | terminator
  /-- An argument that has no place. -/
  | stray
deriving Repr, DecidableEq

namespace Argument

/-- The dash that begins the names of options. -/
def dash : UInt8 := 45

/-- The equals sign. -/
def equalsSign : UInt8 := 61

/-- The option with a value of a long name. -/
def longOption? (name : Bytes) : Option Options.Valued :=
  if name = Utf8.ofString "input" then some .input
  else if name = Utf8.ofString "output-dir" then some .outputDirectory
  else if name = Utf8.ofString "config" then some .settingsFile
  else none

/-- The argument that a long name without a value is. -/
def ofLongName (name : Bytes) : Argument :=
  if name = Utf8.ofString "dry-run" then .switch .dryRun
  else if name = Utf8.ofString "keep-going" then .switch .keepGoing
  else if name = Utf8.ofString "report-json" then .switch .reportJson
  else if name = Utf8.ofString "help" then .help
  else if name = Utf8.ofString "version" then .version
  else
    match longOption? name with
    | some option => .awaiting option
    | none => .stray

/-- The argument after two dashes. -/
def ofLong (text : Bytes) : Argument :=
  match text.dropWhile (· ≠ equalsSign) with
  | [] => if text = [] then .terminator else ofLongName text
  | _ :: value =>
    match longOption? (text.takeWhile (· ≠ equalsSign)) with
    | some option => .attached option value
    | none => .stray

/-- The option with a value of a short name. -/
def shortOption? (letter : UInt8) : Option Options.Valued :=
  if letter = 105 then some .input
  else if letter = 111 then some .outputDirectory
  else if letter = 99 then some .settingsFile
  else none

/-- The argument after one dash. -/
def ofShort (letter : UInt8) (text : Bytes) : Argument :=
  if letter = 104 then .help
  else if letter = 86 then .version
  else
    match shortOption? letter, text with
    | some option, [] => .awaiting option
    | some option, first :: rest =>
      .attached option (if first = equalsSign then rest else first :: rest)
    | none, _ => .stray

/-- The argument that these bytes are. -/
def ofBytes (text : Bytes) : Argument :=
  match text with
  | first :: second :: rest =>
    if first ≠ dash then .stray
    else if second = dash then ofLong rest
    else ofShort second rest
  | _ => .stray

/-- Whether an argument looks like a switch and so cannot be a value. -/
def looksLikeSwitch (text : Bytes) : Bool := text.head? = some dash && text.length ≠ 1

end Argument

/-! ### All arguments -/

/-- What arguments ask for, after the options that have been read. -/
def Request.continue (options : Options) : List Bytes → Request
  | [] => .run options
  | [text] =>
    match Argument.ofBytes text with
    | .attached option value =>
      match options.setValue? option value with
      | some next => .run next
      | none => .misuse
    | .switch switch =>
      match options.turnOn? switch with
      | some next => .run next
      | none => .misuse
    | .help => .help
    | .version => .version
    | .terminator => .run options
    | .awaiting _ | .stray => .misuse
  | text :: following :: rest =>
    match Argument.ofBytes text with
    | .attached option value =>
      match options.setValue? option value with
      | some next => Request.continue next (following :: rest)
      | none => .misuse
    | .awaiting option =>
      if Argument.looksLikeSwitch following then .misuse
      else
        match options.setValue? option following with
        | some next => Request.continue next rest
        | none => .misuse
    | .switch switch =>
      match options.turnOn? switch with
      | some next => Request.continue next (following :: rest)
      | none => .misuse
    | .help => .help
    | .version => .version
    | .terminator | .stray => .misuse

/-- What the arguments ask for. -/
def Request.ofArguments (arguments : List Bytes) : Request := Request.continue {} arguments

example : Request.ofArguments [Utf8.ofString "-i", Utf8.ofString "-"] =
    .run { input := some (Utf8.ofString "-") } := by decide
example : Request.ofArguments [Utf8.ofString "-h", Utf8.ofString "--bogus"] = .help := by decide
example : Request.ofArguments [Utf8.ofString "--config="] = .misuse := by decide

end ChainLaunchers
