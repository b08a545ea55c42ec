/-
Module: ChainLaunchers.Proofs.CommandLine.ReportPrinting
Purpose: When the report of a run can be printed: unless a line matched and the output directory is
  no text.
Trusted boundary: none
Main exports:
  Options.CompletesWith, Options.exists_report_fault_iff, Options.PrintsReports,
  Options.prints_reports
-/
import ChainLaunchers.Proofs.CommandLine.Status
import ChainLaunchers.Proofs.Run.ReportPaths

namespace ChainLaunchers

/-! ### Outcomes of runs -/

/-- Printing has no part in a run over the command list. -/
theorem Run.result_ne_report (run : Run) (generator : Generator) (label : Path)
    (fault : ReportFault) : run.result generator label ≠ .error (.report fault) := by
  unfold result
  split
  · exact nofun
  · split
    · exact nofun
    · exact nofun

theorem Generator.result_runFile_ne_report (generator : Generator) (path : Path) (tree : Tree)
    (fault : ReportFault) : (generator.runFile path tree).result ≠ .error (.report fault) := by
  unfold runFile
  split
  · exact nofun
  · exact Run.result_ne_report _ generator path fault

namespace Options

/-! ### Complete runs -/

/-- A run has these settings and this generator, and comes to this report. -/
structure CompletesWith (options : Options) (environmentInput : Option String) (tree : Tree)
    (settings : Settings) (generator : Generator) (report : Report) : Prop where
  loaded : options.effectiveSettings environmentInput tree = .ok settings
  made : options.generator settings = .ok generator
  completed : (generator.runFile settings.input tree).result = .ok report

variable {print : Report → Except ReportFault String} {options : Options}
  {environmentInput : Option String} {tree : Tree} {settings : Settings} {generator : Generator}
  {report : Report}

/-- The generator writes into the output directory of the settings. -/
theorem CompletesWith.outputDirectory
    (completes : options.CompletesWith environmentInput tree settings generator report) :
    generator.outputDirectory = settings.outputDirectory := by
  obtain ⟨base, made, rfl⟩ := generator_eq_ok_iff.1 completes.made
  exact (Generator.ofSettings_eq_ok made).2.2

/-- The report of a complete run has a path that is no text exactly if a line matched and the
output directory of the settings is no text. -/
theorem CompletesWith.exists_invalid_path_iff
    (completes : options.CompletesWith environmentInput tree settings generator report) :
    (∃ path ∈ report.paths, Utf8.isValid path = false) ↔
      0 < report.linesMatched ∧ Utf8.isValid settings.outputDirectory = false := by
  obtain ⟨source, -, completed⟩ := Generator.runFile_eq_ok_iff.1 completes.completed
  rw [Generator.exists_invalid_path_iff completed, completes.outputDirectory]

/-- Whatever becomes of the report, the run has had its effect. -/
theorem CompletesWith.tree_performBy (print : Report → Except ReportFault String)
    (completes : options.CompletesWith environmentInput tree settings generator report) :
    (options.performBy print environmentInput tree).tree =
      (generator.runFile settings.input tree).tree := by
  obtain ⟨told, performed⟩ := performBy_of_made print completes.loaded completes.made
  rw [performed]
  exact tree_concludeBy print options _

/-- A complete run ends with its report, unless it cannot be printed. -/
theorem CompletesWith.result_performBy (print : Report → Except ReportFault String)
    (completes : options.CompletesWith environmentInput tree settings generator report) :
    (options.performBy print environmentInput tree).result =
        match options.printedBy print report with
        | .error fault => .error (.report fault)
        | .ok _ => .ok report := by
  obtain ⟨told, performed⟩ := performBy_of_made print completes.loaded completes.made
  simp only [performed, concludeBy, completes.completed]
  cases options.printedBy print report with
  | error fault => rfl
  | ok output => rfl

theorem CompletesWith.output_performBy (print : Report → Except ReportFault String)
    (completes : options.CompletesWith environmentInput tree settings generator report)
    {output : String} (printed : options.printedBy print report = .ok output) :
    (options.performBy print environmentInput tree).output = output := by
  obtain ⟨told, performed⟩ := performBy_of_made print completes.loaded completes.made
  simp only [performed, concludeBy, completes.completed, printed]

/-- A run that ends for its report is complete, was asked for the report and could not print it. -/
theorem exists_completesWith_of_report_fault {fault : ReportFault}
    (failed : (options.performBy print environmentInput tree).result = .error (.report fault)) :
    ∃ settings generator report,
      options.CompletesWith environmentInput tree settings generator report ∧
        options.reportJson = true ∧ print report = .error fault := by
  cases loaded : options.effectiveSettings environmentInput tree with
  | error other =>
      simp only [performBy, loaded] at failed
      cases failed
  | ok settings =>
      obtain ⟨generator, made⟩ := exists_generator loaded
      obtain ⟨told, performed⟩ := performBy_of_made print loaded made
      cases completed : (generator.runFile settings.input tree).result with
      | error failure =>
          simp only [performed, concludeBy, completed] at failed
          rw [failed] at completed
          exact absurd completed (generator.result_runFile_ne_report settings.input tree fault)
      | ok report =>
          have completes : options.CompletesWith environmentInput tree settings generator report :=
            ⟨loaded, made, completed⟩
          refine ⟨settings, generator, report, completes, ?_⟩
          rw [completes.result_performBy print, printedBy] at failed
          cases asked : options.reportJson with
          | false =>
              simp only [asked, Bool.false_eq_true, if_false] at failed
              cases failed
          | true =>
              simp only [asked, if_true] at failed
              cases printed : print report with
              | error other =>
                  rw [printed] at failed
                  cases failed
                  exact ⟨rfl, rfl⟩
              | ok text =>
                  rw [printed] at failed
                  cases failed

/-- A run ends for its report exactly if it is complete, the report is asked for, a line matched and
the output directory is no text. -/
theorem exists_report_fault_iff (refuses : Report.RefusesInvalidPaths print) :
    (∃ fault, (options.performBy print environmentInput tree).result = .error (.report fault)) ↔
      options.reportJson = true ∧ ∃ settings generator report,
        options.CompletesWith environmentInput tree settings generator report ∧
          0 < report.linesMatched ∧ Utf8.isValid settings.outputDirectory = false := by
  constructor
  · rintro ⟨fault, failed⟩
    obtain ⟨settings, generator, report, completes, asked, printed⟩ :=
      exists_completesWith_of_report_fault failed
    have invalid := (refuses report).1 ⟨fault, printed⟩
    exact ⟨asked, settings, generator, report, completes,
      completes.exists_invalid_path_iff.1 invalid⟩
  · rintro ⟨asked, settings, generator, report, completes, invalid⟩
    obtain ⟨fault, printed⟩ := (refuses report).2 (completes.exists_invalid_path_iff.2 invalid)
    refine ⟨fault, ?_⟩
    rw [completes.result_performBy print, printedBy, if_pos asked, printed]
    rfl

/-! ### The truth about printing -/

/-- When reports are printed, in a way that refuses paths that are no text. -/
structure PrintsReports (print : Report → Except ReportFault String) : Prop where
  /-- The report of a complete run cannot be printed exactly if a line matched and the output
  directory is no text, whatever is read, and from whatever tree. -/
  runs : ∀ (generator : Generator) source size label tree report,
    (generator.runOver source size label tree).result = .ok report →
    ((∃ fault, print report = .error fault) ↔
      0 < report.linesMatched ∧ Utf8.isValid generator.outputDirectory = false)
  /-- The program ends for its report in exactly this case, where the report is asked for. -/
  ends : ∀ options environmentInput tree,
    (∃ fault, (performBy print options environmentInput tree).result = .error (.report fault)) ↔
      options.reportJson = true ∧ ∃ settings generator report,
        options.CompletesWith environmentInput tree settings generator report ∧
          0 < report.linesMatched ∧ Utf8.isValid settings.outputDirectory = false
  /-- Even so the run has had its effect. -/
  effect : ∀ options environmentInput tree settings generator report,
    CompletesWith options environmentInput tree settings generator report →
    (performBy print options environmentInput tree).tree =
      (generator.runFile settings.input tree).tree
  /-- In all other cases the report is printed, also without a line that matched. -/
  printed : ∀ options environmentInput tree settings generator report,
    CompletesWith options environmentInput tree settings generator report →
    options.reportJson = true →
    report.linesMatched = 0 ∨ Utf8.isValid settings.outputDirectory = true →
    ∃ text, print report = .ok text ∧
      (performBy print options environmentInput tree).output = text ++ "\n" ∧
      (performBy print options environmentInput tree).result = .ok report

/-- A report can be printed unless a line matched and the output directory is no text, for every way
of printing that refuses exactly the reports with a path that is no text. -/
theorem prints_reports {print : Report → Except ReportFault String}
    (refuses : Report.RefusesInvalidPaths print) : PrintsReports print := by
  constructor
  · intro generator source size label tree report completed
    rw [refuses report, Generator.exists_invalid_path_iff completed]
  · intro options environmentInput tree
    exact exists_report_fault_iff refuses
  · intro options environmentInput tree settings generator report completes
    exact completes.tree_performBy print
  · intro options environmentInput tree settings generator report completes asked fine
    cases printed : print report with
    | error fault =>
        obtain ⟨matched, invalid⟩ :=
          completes.exists_invalid_path_iff.1 ((refuses report).1 ⟨fault, printed⟩)
        rcases fine with unmatched | valid
        · omega
        · rw [invalid] at valid
          cases valid
    | ok text =>
        have given : options.printedBy print report = .ok (text ++ "\n") := by
          rw [printedBy, if_pos asked, printed]
          rfl
        refine ⟨text, rfl, completes.output_performBy print given, ?_⟩
        rw [completes.result_performBy print, given]

/-- The launcher is planned for a directory whose name is no text, so the report of the run cannot
be printed. -/
theorem prints_reports_of_invalid_directory :
    Report.RefusesInvalidPaths Report.toJson ∧
      ∃ fault, (performBy Report.toJson
        { outputDirectory := some [255], dryRun := true, reportJson := true } none
        Invocation.listed).result = .error (.report fault) := by
  refine ⟨Report.toJson_refusesInvalidPaths, ?_⟩
  have ends := (prints_reports Report.toJson_refusesInvalidPaths).ends
    { outputDirectory := some [255], dryRun := true, reportJson := true } none Invocation.listed
  apply ends.2
  refine ⟨rfl, { Settings.standard with outputDirectory := [255] },
    { Generator.standard with outputDirectory := [255], dryRun := true },
    { linesRead := 1, linesMatched := 1, written := [255 :: Utf8.ofString "/dex.cmd"],
      overwritten := 0, failed := [], dryRun := true }, ⟨rfl, rfl, ?_⟩, ?_, ?_⟩
  · decide +kernel
  · decide
  · decide

end Options

end ChainLaunchers
