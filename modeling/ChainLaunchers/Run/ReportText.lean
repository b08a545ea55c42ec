/-
Module: ChainLaunchers.Run.ReportText
Purpose: A report as indented JSON.
Trusted boundary: the layout, which restates that of the JSON printer in use.
Main exports:
  Report.paths, Report.isPrintable, Report.toJson
-/
import ChainLaunchers.Failure
import ChainLaunchers.Run.Ledger

namespace ChainLaunchers

/-!
The report is one JSON object with a member per line, two spaces of indentation a level, and
an empty list as `[]`.  Paths have to be valid UTF-8, because JSON strings are text.
-/

namespace Report

/-- Indentation of the given depth. -/
def indent (depth : Nat) : String := String.ofList (List.replicate (2 * depth) ' ')

/-- Members one to a line, between the given brackets, whose closing one has the given depth. -/
def bracketed (opening closing : String) (depth : Nat) (members : List String) : String :=
  match members with
  | [] => opening ++ closing
  | _ =>
    opening ++ "\n" ++
      String.intercalate ",\n" (members.map fun member => indent (depth + 1) ++ member) ++
      "\n" ++ indent depth ++ closing

/-- A JSON list whose brackets have the given depth. -/
def jsonList (depth : Nat) (members : List String) : String := bracketed "[" "]" depth members

/-- A JSON object whose braces have the given depth. -/
def jsonObject (depth : Nat) (members : List (String × String)) : String :=
  bracketed "\x7b" "\x7d" depth (members.map fun (name, value) =>
    Quoted.inJson name ++ ": " ++ value)

/-- The JSON spelling of a truth value. -/
def jsonBool (value : Bool) : String := if value then "true" else "false"

/-- A path as a JSON string. -/
def jsonPath (path : Path) : Except ReportFault String :=
  match Utf8.toString? path with
  | some text => .ok (Quoted.inJson text)
  | none => .error .pathNotText

/-- A failed write as a JSON object. -/
def jsonFailedWrite (failed : FailedWrite) : Except ReportFault String := do
  let path ← jsonPath failed.path
  return jsonObject 2 [("path", path), ("reason", Quoted.inJson failed.cause.message)]

/-- The report as indented JSON. -/
def toJson (report : Report) : Except ReportFault String := do
  let written ← report.written.mapM jsonPath
  let failed ← report.failed.mapM jsonFailedWrite
  return jsonObject 0
    [("lines_read", toString report.linesRead),
     ("lines_matched", toString report.linesMatched),
     ("written", jsonList 1 written),
     ("overwritten", toString report.overwritten),
     ("failed", jsonList 1 failed),
     ("dry_run", jsonBool report.dryRun)]

/-- The paths that a report names. -/
def paths (report : Report) : List Path := report.written ++ report.failed.map FailedWrite.path

/-- Whether all paths of a report are text. -/
def isPrintable (report : Report) : Bool := report.paths.all Utf8.isValid

end Report

end ChainLaunchers
