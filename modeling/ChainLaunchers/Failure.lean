/-
Module: ChainLaunchers.Failure
Purpose: Why a run ends without a result.
Trusted boundary: the wording of a path that is no text, which restates that of the JSON printer in
  use.
Main exports:
  ReportFault, Failure, Failure.message, Failure.cause?
-/
import ChainLaunchers.Settings

namespace ChainLaunchers

/-- Why a report cannot be printed. -/
inductive ReportFault where
  /-- One of its paths is not valid UTF-8. -/
  | pathNotText
  /-- A fault that is known by its description only. -/
  | described (text : String)
deriving Repr, DecidableEq, Inhabited

/-- The wording of a fault of a report. -/
def ReportFault.message : ReportFault → String
  | .pathNotText => "path contains invalid UTF-8 characters"
  | .described text => text

/-- Why a run ends without a result. -/
inductive Failure where
  /-- The command list cannot be opened. -/
  | inputOpen (path : Path) (cause : IoError)
  /-- The command list was opened but not read to its end. -/
  | inputRead (path : Path) (cause : IoError)
  /-- A launcher could not be written. -/
  | outputWrite (path : Path) (cause : IoError)
  /-- The settings are at fault. -/
  | settings (fault : SettingsFault)
  /-- The report cannot be printed. -/
  | report (fault : ReportFault)
deriving Repr, DecidableEq, Inhabited

namespace Failure

/-- The wording of a failure. -/
def message : Failure → String
  | .inputOpen path cause =>
    "Failed to open input file " ++ Utf8.toStringLossy path ++ ": " ++ cause.message
  | .inputRead path cause =>
    "Failed to read input file " ++ Utf8.toStringLossy path ++ ": " ++ cause.message
  | .outputWrite path cause =>
    "Failed to write " ++ Utf8.toStringLossy path ++ ": " ++ cause.message
  | .settings fault => fault.message
  | .report fault => "Failed to serialize report: " ++ fault.message

/-- The failed file operation behind a failure, if that is what it comes from. -/
def cause? : Failure → Option IoError
  | .inputOpen _ cause | .inputRead _ cause | .outputWrite _ cause => some cause
  | .settings _ | .report _ => none

end Failure

end ChainLaunchers
