/-
Module: ChainLaunchers.Settings
Purpose: The settings of a run, their defaults, and which of them are acceptable.
Trusted boundary: none
Main exports:
  Settings, Settings.standard, SettingsFault, SettingsFault.message, Settings.validate
-/
import ChainLaunchers.Rule
import ChainLaunchers.Path
import ChainLaunchers.IoError
import ChainLaunchers.Text.Quoted

namespace ChainLaunchers

/-- Everything that a run can be told. -/
structure Settings where
  /-- The command list to read. -/
  input : Path
  /-- The directory that receives the launchers. -/
  outputDirectory : Path
  /-- The extension of a launcher's file name, without the dot. -/
  extension : String
  /-- The literal in front of a chain name. -/
  marker : String
  /-- The rules for the content of a launcher, in their order. -/
  rules : List Rule
deriving Repr, DecidableEq, Inhabited

/-- The settings of a run that is told nothing. -/
def Settings.standard : Settings where
  input := Utf8.ofString "assetchains.old"
  outputDirectory := Utf8.ofString "."
  extension := "cmd"
  marker := "-ac_name="
  rules := Rule.standard

/-! ### Faults -/

/-- What can be wrong with settings, or with the document that they come from. -/
inductive SettingsFault where
  | emptyMarker
  /-- A marker that is to be searched for is empty. -/
  | emptyNameMarker
  | emptyExtension
  /-- The extension could lead out of the output directory. -/
  | extensionNotBare (extension : String)
  /-- The rule at this position, counted from 1, searches for the empty literal. -/
  | emptyLiteral (position : Nat)
  /-- The text is no YAML document, or the document does not describe settings. -/
  | malformed
  /-- The file of the settings cannot be read. -/
  | unreadable (path : Path) (cause : IoError)
  /-- A fault of the settings in a file. -/
  | inFile (path : Path) (fault : SettingsFault)
  /-- A fault that is known by its description only. -/
  | described (text : String)
  /-- A fault of the rules that is known by its description only. -/
  | rulesDescribed (text : String)
deriving Repr, DecidableEq, Inhabited

namespace SettingsFault

/-- Whether a fault lies in the rules alone. -/
def isAboutRules : SettingsFault → Bool
  | .emptyLiteral _ => true
  | .rulesDescribed _ => true
  | _ => false

/-- The wording of a fault. -/
def message : SettingsFault → String
  | .emptyMarker => "Configuration error: 'marker' must not be empty"
  | .emptyNameMarker => "Configuration error: Name marker must not be empty"
  | .emptyExtension => "Configuration error: 'extension' must not be empty"
  | .extensionNotBare extension =>
    "Configuration error: 'extension' must be a bare extension like \"cmd\", got "
      ++ Quoted.inMessage extension
  | .emptyLiteral position =>
    "Invalid rewrite rule: rule #" ++ toString position ++ " has an empty search literal"
  | .malformed => "Configuration error: Failed to parse YAML"
  | .unreadable path cause =>
    "Configuration error: Failed to read " ++ Utf8.toStringLossy path ++ ": " ++ cause.message
  | .inFile path fault =>
    "Configuration error: " ++ Utf8.toStringLossy path ++ ": " ++ fault.message
  | .described text => "Configuration error: " ++ text
  | .rulesDescribed text => "Invalid rewrite rule: " ++ text

end SettingsFault

/-! ### Validation -/

namespace Settings

/-- An extension that names a part of a file name and nothing else: it holds no separator of
either kind and does not begin with a dot. -/
def isBareExtension (extension : String) : Bool :=
  !(extension.toList.any fun character => character = '/' || character = '\\') &&
    extension.toList.head? ≠ some '.'

/-- Accepts rules unless one of them searches for the empty literal. -/
def validateRules (rules : List Rule) : Except SettingsFault Unit :=
  match Rule.firstEmpty? rules with
  | some position => .error (.emptyLiteral position)
  | none => .ok ()

/-- Accepts settings, or tells the first fault: of the marker, of the extension, of the
rules. -/
def validate (settings : Settings) : Except SettingsFault Unit :=
  if settings.marker = "" then .error .emptyMarker
  else if settings.extension = "" then .error .emptyExtension
  else if !isBareExtension settings.extension then
    .error (.extensionNotBare settings.extension)
  else validateRules settings.rules

/-- The input path that counts: the explicit one, else the one of the environment unless it is
empty, else the one of the settings. -/
def resolveInput (settings : Settings) (explicit : Option Path) (environment : Option String) :
    Settings :=
  match explicit with
  | some path => { settings with input := path }
  | none =>
    match environment with
    | some text => if text = "" then settings else { settings with input := Utf8.ofString text }
    | none => settings

theorem validate_standard : validate standard = .ok () := by rfl

end Settings

end ChainLaunchers
