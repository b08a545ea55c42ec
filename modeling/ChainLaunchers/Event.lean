/-
Module: ChainLaunchers.Event
Purpose: What a run tells while it is under way.
Trusted boundary: the form of a line of the log, which restates that of the logger in use, less its
  time and its source.
Main exports:
  Event, Event.Level, Event.level, Event.message, Event.text
-/
import ChainLaunchers.Path
import ChainLaunchers.IoError

namespace ChainLaunchers

/-- The environment variable that names the command list. -/
def inputVariable : String := "ASSETCHAIN_GEN_INPUT"

/-- Something that a run tells while it is under way.  Lines are counted from 1. -/
inductive Event where
  /-- The settings are read from a file. -/
  | settingsFound (path : Path)
  /-- There is no settings file, and the defaults are in force. -/
  | settingsMissing (path : Path)
  /-- The command list was named explicitly. -/
  | inputExplicit (path : Path)
  /-- The command list was named by the environment. -/
  | inputFromEnvironment (text : String)
  /-- The command list is open. -/
  | reading (path : Path)
  /-- A line carries no chain name. -/
  | skipped (line : Nat)
  /-- A line has the file name of an earlier one. -/
  | repeated (line : Nat) (fileName : Name)
  /-- A dry run would write this file. -/
  | planned (path : Path) (content : Bytes)
  /-- A file was written. -/
  | wrote (path : Path)
  /-- A file could not be written, and the run goes on. -/
  | refused (path : Path) (cause : IoError)
  /-- The run is complete. -/
  | finished (read matched written failed : Nat)
deriving Repr, DecidableEq, Inhabited

namespace Event

/-- How important an event is. -/
inductive Level where
  | debug
  | info
  | error
deriving Repr, DecidableEq, Inhabited

/-- The name of a level. -/
def Level.name : Level → String
  | .debug => "DEBUG"
  | .info => "INFO"
  | .error => "ERROR"

/-- The level of an event. -/
def level : Event → Level
  | .settingsFound _ | .settingsMissing _ | .inputExplicit _ | .inputFromEnvironment _
  | .reading _ | .skipped _ | .repeated _ _ => .debug
  | .planned _ _ | .wrote _ | .finished _ _ _ _ => .info
  | .refused _ _ => .error

/-- The wording of an event. -/
def message : Event → String
  | .settingsFound path => "Loading configuration from " ++ Utf8.toStringLossy path
  | .settingsMissing path =>
    "No configuration at " ++ Utf8.toStringLossy path ++ ", using defaults"
  | .inputExplicit path => "Using input from CLI flag: " ++ Utf8.toStringLossy path
  | .inputFromEnvironment text => "Using input from " ++ inputVariable ++ ": " ++ text
  | .reading path => "Reading " ++ Utf8.toStringLossy path
  | .skipped line => "Line " ++ toString line ++ ": no chain name, skipped"
  | .repeated line fileName =>
    "Line " ++ toString line ++ ": " ++ Utf8.toStringLossy fileName
      ++ " replaces an earlier entry"
  | .planned path content =>
    "Would write " ++ Utf8.toStringLossy path ++ ": " ++ Utf8.toStringLossy content
  | .wrote path => "Wrote " ++ Utf8.toStringLossy path
  | .refused path cause =>
    "Failed to write " ++ Utf8.toStringLossy path ++ ": " ++ cause.message
  | .finished read matched written failed =>
    "Processed " ++ toString read ++ " lines: " ++ toString matched ++ " matched, "
      ++ toString written ++ " files written, " ++ toString failed ++ " failed"

/-- An event as a line of a log. -/
def text (event : Event) : String := event.level.name ++ " " ++ event.message

end Event

end ChainLaunchers
