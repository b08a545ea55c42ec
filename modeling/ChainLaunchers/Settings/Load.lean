/-
Module: ChainLaunchers.Settings.Load
Purpose: Settings from YAML text and from files.
Trusted boundary: none
Main exports:
  Settings.accepted, Settings.ofDocument, Settings.ofYaml, Settings.ofFile, Settings.load,
  Settings.loadEvents
-/
import ChainLaunchers.Settings.OfDocument
import ChainLaunchers.Yaml.Composition
import ChainLaunchers.Text.Whitespace
import ChainLaunchers.Tree.Walk
import ChainLaunchers.Event

namespace ChainLaunchers

namespace Settings

/-- The settings themselves if they are acceptable. -/
def accepted (settings : Settings) : Except SettingsFault Settings := do
  settings.validate
  return settings

/-- The settings that a document describes, if they are acceptable. -/
def ofDocument (document : Yaml.Document) : Except SettingsFault Settings :=
  match ofDocument? document with
  | some settings => settings.accepted
  | none => .error .malformed

/-- The settings that a text describes, if they are acceptable.  A text of white space
describes the default settings. -/
def ofYaml (text : String) : Except SettingsFault Settings :=
  if Whitespace.isBlankText text then standard.accepted
  else
    match Yaml.Document.ofText? text with
    | some document => ofDocument document
    | none => .error .malformed

/-- The text of a file. -/
def readText (tree : Tree) (path : Path) : Except IoError String := do
  let content ← tree.readFile path
  match Utf8.toString? content with
  | some text => .ok text
  | none => .error .notText

/-- The settings of a file, if they are acceptable. -/
def ofFile (tree : Tree) (path : Path) : Except SettingsFault Settings :=
  match readText tree path with
  | .error cause => .error (.unreadable path cause)
  | .ok text =>
    match ofYaml text with
    | .error fault => .error (.inFile path fault)
    | .ok settings => .ok settings

/-- The settings of a file if the path leads to anything, and the default settings if not. -/
def load (tree : Tree) (path : Path) : Except SettingsFault Settings :=
  if tree.isPresent path then ofFile tree path else .ok standard

/-- What loading the settings tells. -/
def loadEvents (tree : Tree) (path : Path) : List Event :=
  if tree.isPresent path then [.settingsFound path] else [.settingsMissing path]

/-- What resolving the input path tells. -/
def resolveEvents (explicit : Option Path) (environment : Option String) : List Event :=
  match explicit with
  | some path => [.inputExplicit path]
  | none =>
    match environment with
    | some text => if text = "" then [] else [.inputFromEnvironment text]
    | none => []

end Settings

end ChainLaunchers
