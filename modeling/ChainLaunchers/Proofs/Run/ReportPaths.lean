/-
Module: ChainLaunchers.Proofs.Run.ReportPaths
Purpose: The paths in a report are text exactly if the output directory is, and reports with other
  paths cannot be printed.
Trusted boundary: none
Main exports:
  Path.isValid_join, Generator.isValid_pathOf, Generator.exists_invalid_path_iff,
  Report.RefusesInvalidPaths, Report.toJson_refusesInvalidPaths
-/
import ChainLaunchers.Proofs.Run.Replacements
import ChainLaunchers.Proofs.Text.Encoding
import ChainLaunchers.Run.ReportText

namespace ChainLaunchers

/-! ### Paths of launchers -/

/-- Joining a name that begins a character neither repairs the directory nor breaks it. -/
theorem Path.isValid_join (directory : Path) {name : Name} (relative : isAbsolute name = false)
    (afresh : Utf8.BeginsAfresh name) :
    Utf8.isValid (directory.join name) = (Utf8.isValid directory && Utf8.isValid name) := by
  rw [join, relative, if_neg Bool.false_ne_true]
  split
  · exact Utf8.isValid_append afresh
  · have ascii : separator < 128 := by decide
    rw [Utf8.isValid_append (Utf8.beginsAfresh_cons ascii name), Utf8.isValid_cons ascii]

theorem Bytes.lt_of_isWord {byte : UInt8} (word : isWord byte = true) : byte < 128 := by
  have ascii := (isWord_iff byte).1 word
  simp only [UInt8.lt_iff_toNat_lt, UInt8.reduceToNat]
  omega

namespace Generator

variable {generator : Generator}

/-- A file name is text, because a chain name is ASCII and the extension is text. -/
theorem isValid_fileName (generator : Generator) {chain : Bytes}
    (named : Marker.IsChainName chain) : Utf8.isValid (generator.fileName chain) = true := by
  have dot : (46 : UInt8) < 128 := by decide
  have ascii : ∀ byte ∈ Bytes.toLower chain, byte < 128 := by
    intro byte mem
    exact Bytes.lt_of_isWord (isWord_of_mem_toLower named mem)
  rw [fileName, Utf8.isValid_append (Utf8.beginsAfresh_cons dot _), Utf8.isValid_cons dot,
    Utf8.isValid_of_ascii ascii, Utf8.isValid_ofString]
  rfl

/-- The path of a launcher is text exactly if the output directory is. -/
theorem isValid_pathOf {line : Bytes} {launcher : Launcher}
    (found : generator.launcher? line = some launcher) :
    Utf8.isValid (generator.pathOf launcher) = Utf8.isValid generator.outputDirectory := by
  obtain ⟨named, same⟩ := launcher?_eq_some found
  obtain ⟨first, rest, whole, word⟩ := wordFirst_fileName generator named
  have relative : Path.isAbsolute (first :: rest) = false := by
    have different : first ≠ Path.separator := by
      rintro rfl
      revert word
      decide
    simpa [Path.isAbsolute] using different
  have afresh := Utf8.beginsAfresh_cons (Bytes.lt_of_isWord word) rest
  have valid := isValid_fileName generator named
  rw [whole] at valid
  rw [pathOf, same, whole, Path.isValid_join _ relative afresh, valid, Bool.and_true]

/-! ### Paths of reports -/

/-- The paths in the report of a complete run are those of the launchers of its lines, and there
are as many of them as lines that matched. -/
theorem exists_lines_of_result {source : Source} {size : Nat} {label : Path} {tree : Tree}
    {report : Report}
    (completed : (generator.runOver source size label tree).result = .ok report) :
    ∃ lines, report.paths.Perm ((generator.launchers lines).map generator.pathOf) ∧
      report.linesMatched = (generator.launchers lines).length := by
  obtain ⟨going, -, rfl⟩ := going_of_result label completed
  obtain ⟨lines, -, fates, -⟩ :=
    exists_lines_readLines generator source size tree 0 List.not_mem_nil
  rw [run, fates] at going ⊢
  have sums := addsUp_of_going going
  have counted := sums.paths.length
  rw [List.length_map, List.length_map] at counted
  exact ⟨lines, sums.paths.perm, sums.total.symm.trans counted⟩

/-- A complete run reports a path that is no text exactly if a line matched and the output
directory is no text. -/
theorem exists_invalid_path_iff {source : Source} {size : Nat} {label : Path} {tree : Tree}
    {report : Report}
    (completed : (generator.runOver source size label tree).result = .ok report) :
    (∃ path ∈ report.paths, Utf8.isValid path = false) ↔
      0 < report.linesMatched ∧ Utf8.isValid generator.outputDirectory = false := by
  obtain ⟨lines, paths, matched⟩ := exists_lines_of_result completed
  have same : ∀ launcher ∈ generator.launchers lines,
      Utf8.isValid (generator.pathOf launcher) = Utf8.isValid generator.outputDirectory := by
    intro launcher mem
    obtain ⟨line, -, found⟩ := List.mem_filterMap.1 mem
    exact isValid_pathOf found
  rw [matched, List.length_pos_iff_exists_mem]
  constructor
  · rintro ⟨path, mem, invalid⟩
    obtain ⟨launcher, present, rfl⟩ := List.mem_map.1 (paths.mem_iff.1 mem)
    exact ⟨⟨launcher, present⟩, (same launcher present).symm.trans invalid⟩
  · rintro ⟨⟨launcher, present⟩, invalid⟩
    exact ⟨_, paths.mem_iff.2 (List.mem_map_of_mem present),
      (same launcher present).trans invalid⟩

end Generator

/-! ### Printing -/

/-- Going through a list fails exactly if it fails for one of the members. -/
theorem exists_error_mapM_iff {α β ε : Type} {f : α → Except ε β} {members : List α} :
    (∃ fault, members.mapM f = .error fault) ↔
      ∃ member ∈ members, ∃ fault, f member = .error fault := by
  induction members with
  | nil => exact iff_of_false nofun nofun
  | cons member rest ih =>
      rw [List.mapM_cons]
      cases head : f member with
      | error fault =>
          exact iff_of_true ⟨fault, rfl⟩ ⟨member, List.mem_cons_self, fault, head⟩
      | ok value =>
          have others : (∃ other ∈ member :: rest, ∃ fault, f other = .error fault) ↔
              ∃ other ∈ rest, ∃ fault, f other = .error fault := by
            simp [head]
          rw [others, ← ih]
          cases rest.mapM f with
          | error fault => exact iff_of_true ⟨fault, rfl⟩ ⟨fault, rfl⟩
          | ok values => exact iff_of_false nofun nofun

namespace Report

/-- A way to print reports refuses exactly those with a path that is no text. -/
def RefusesInvalidPaths (print : Report → Except ReportFault String) : Prop :=
  ∀ report, (∃ fault, print report = .error fault) ↔
    ∃ path ∈ report.paths, Utf8.isValid path = false

theorem exists_error_jsonPath_iff {path : Path} :
    (∃ fault, jsonPath path = .error fault) ↔ Utf8.isValid path = false := by
  rw [jsonPath, ← Utf8.isSome_toString?]
  cases Utf8.toString? path with
  | none => exact iff_of_true ⟨_, rfl⟩ rfl
  | some text => exact iff_of_false nofun nofun

theorem exists_error_jsonFailedWrite_iff {failed : FailedWrite} :
    (∃ fault, jsonFailedWrite failed = .error fault) ↔ Utf8.isValid failed.path = false := by
  rw [← exists_error_jsonPath_iff, jsonFailedWrite]
  cases jsonPath failed.path with
  | error fault => exact iff_of_true ⟨fault, rfl⟩ ⟨fault, rfl⟩
  | ok text => exact iff_of_false nofun nofun

/-- JSON is such a way. -/
theorem toJson_refusesInvalidPaths : RefusesInvalidPaths toJson := by
  intro report
  have written : (∃ fault, report.written.mapM jsonPath = .error fault) ↔
      ∃ path ∈ report.written, Utf8.isValid path = false := by
    simp only [exists_error_mapM_iff, exists_error_jsonPath_iff]
  have failed : (∃ fault, report.failed.mapM jsonFailedWrite = .error fault) ↔
      ∃ failed ∈ report.failed, Utf8.isValid failed.path = false := by
    simp only [exists_error_mapM_iff, exists_error_jsonFailedWrite_iff]
  have either : (∃ path ∈ report.paths, Utf8.isValid path = false) ↔
      (∃ path ∈ report.written, Utf8.isValid path = false) ∨
        ∃ failed ∈ report.failed, Utf8.isValid failed.path = false := by
    simp only [paths, List.mem_append, List.mem_map, or_and_right, exists_or]
    simp
  rw [either, ← written, ← failed, toJson]
  cases report.written.mapM jsonPath with
  | error fault => exact iff_of_true ⟨fault, rfl⟩ (Or.inl ⟨fault, rfl⟩)
  | ok texts =>
      cases report.failed.mapM jsonFailedWrite with
      | error fault => exact iff_of_true ⟨fault, rfl⟩ (Or.inr ⟨fault, rfl⟩)
      | ok objects => exact iff_of_false nofun (by rintro (⟨_, ⟨⟩⟩ | ⟨_, ⟨⟩⟩))

end Report

end ChainLaunchers
