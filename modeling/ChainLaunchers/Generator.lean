/-
Module: ChainLaunchers.Generator
Purpose: What becomes of a single line: the launcher of the chain that it names.
Trusted boundary: none
Main exports:
  Launcher, Generator, Generator.standard, Generator.ofSettings, Generator.launcher?,
  Generator.pathOf
-/
import ChainLaunchers.Marker
import ChainLaunchers.Line
import ChainLaunchers.Settings

namespace ChainLaunchers

/-- A launcher file, derived from one line. -/
structure Launcher where
  /-- The name of the chain as it stands on the line. -/
  chain : Bytes
  /-- The name of the file inside the output directory. -/
  fileName : Name
  /-- What the rules have made of the line, without the blanks at its ends. -/
  content : Bytes
deriving Repr, DecidableEq, Inhabited

/-- Settings that have been accepted, ready to treat lines. -/
structure Generator where
  marker : Marker
  rules : List Rule
  extension : String
  outputDirectory : Path
  /-- Nothing is written; the run only tells what it would write. -/
  dryRun : Bool := false
  /-- A file that cannot be written is recorded, and the run goes on. -/
  keepGoing : Bool := false
deriving Inhabited

namespace Generator

/-- The generator of accepted settings, or the first fault of the settings. -/
def ofSettings (settings : Settings) : Except SettingsFault Generator :=
  match settings.validate with
  | .error fault => .error fault
  | .ok () =>
    match Marker.ofString? settings.marker with
    | none => .error .emptyNameMarker
    | some marker =>
      .ok { marker, rules := settings.rules, extension := settings.extension,
            outputDirectory := settings.outputDirectory }

/-- The generator of the default settings. -/
def standard : Generator where
  marker := Marker.standard
  rules := Settings.standard.rules
  extension := Settings.standard.extension
  outputDirectory := Settings.standard.outputDirectory

/-- The file name of a chain: its name in small letters, a dot and the extension. -/
def fileName (generator : Generator) (chain : Bytes) : Name :=
  Bytes.toLower chain ++ 46 :: Utf8.ofString generator.extension

/-- The launcher of a line; a line without a chain name has none. -/
def launcher? (generator : Generator) (line : Bytes) : Option Launcher :=
  (generator.marker.name? line).map fun chain =>
    { chain
      fileName := generator.fileName chain
      content := Line.trim (Rule.applyAll generator.rules line) }

/-- The path that a launcher is written to. -/
def pathOf (generator : Generator) (launcher : Launcher) : Path :=
  generator.outputDirectory.join launcher.fileName

/-- The generator of the default settings is the default generator. -/
theorem ofSettings_standard : ofSettings Settings.standard = .ok standard := by rfl

end Generator

end ChainLaunchers
