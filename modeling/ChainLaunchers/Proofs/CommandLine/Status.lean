/-
Module: ChainLaunchers.Proofs.CommandLine.Status
Purpose: The status of a run and what it prints tell how it went: nothing that fails on the way
  is passed over.
Trusted boundary: none
Main exports:
  Completion.status_eq_zero_iff, Options.Reports, Options.ReadsAll, Options.reports_unfailed_iff,
  Options.Ends, Options.ends_perform, Options.spells_output, Options.TellsTruth,
  Invocation.status_tells_truth
-/
import ChainLaunchers.Proofs.CommandLine.Printing
import ChainLaunchers.Proofs.Run.ReportJson
import ChainLaunchers.Proofs.Run.Success
import ChainLaunchers.Proofs.Settings.Acceptance

namespace ChainLaunchers

/-! ### Errors and status -/

namespace Completion

variable {completion : Completion}

/-- A run without an error has a report without a failure. -/
theorem errorText?_eq_none_iff :
    completion.errorText? = none ↔
      ∃ report, completion.result = .ok report ∧ report.hasFailures = false := by
  unfold errorText?
  cases completion.result with
  | error failure => exact iff_of_false nofun nofun
  | ok report =>
      cases fine : report.hasFailures with
      | true =>
          apply iff_of_false
          · simp [fine]
          · rintro ⟨_, same, unfailed⟩
            obtain rfl := Except.ok.inj same
            rw [fine] at unfailed
            cases unfailed
      | false => exact iff_of_true (by simp [fine]) ⟨report, rfl, fine⟩

/-- Every error is introduced as one. -/
theorem errorText?_begins {text : String} (failed : completion.errorText? = some text) :
    ∃ message, text = "Error: " ++ message := by
  unfold errorText? at failed
  split at failed
  · exact ⟨_, (Option.some.inj failed).symm⟩
  · split at failed
    · rw [String.append_assoc] at failed
      exact ⟨_, (Option.some.inj failed).symm⟩
    · cases failed

/-- The status is 0 without an error, and 1 with one. -/
theorem status_cases :
    completion.status = 0 ∧ completion.errorText? = none ∨
      completion.status = 1 ∧ ∃ message, completion.errorText? = some ("Error: " ++ message) := by
  unfold status
  cases failed : completion.errorText? with
  | none => exact Or.inl ⟨rfl, rfl⟩
  | some text =>
      obtain ⟨message, rfl⟩ := errorText?_begins failed
      exact Or.inr ⟨rfl, message, rfl⟩

theorem status_eq_zero_iff :
    completion.status = 0 ↔
      ∃ report, completion.result = .ok report ∧ report.hasFailures = false := by
  rw [← errorText?_eq_none_iff]
  rcases completion.status_cases with ⟨zero, fine⟩ | ⟨one, message, failed⟩
  · exact iff_of_true zero fine
  · rw [one, failed]
    exact iff_of_false nofun nofun

end Completion

namespace Options

variable {options : Options} {environmentInput : Option String} {tree : Tree}

/-! ### Runs over the command list -/

/-- The run comes to this report: its settings load, and the generator made of them gets to the
end of the command list. -/
def Reports (options : Options) (environmentInput : Option String) (tree : Tree)
    (report : Report) : Prop :=
  ∃ settings generator, options.effectiveSettings environmentInput tree = .ok settings ∧
    options.generator settings = .ok generator ∧
    (generator.runFile settings.input tree).result = .ok report

/-- The settings of a run load, its command list opens and is read to its end, and no write on the
way fails. -/
structure ReadsAll (options : Options) (environmentInput : Option String) (tree : Tree)
    (settings : Settings) (generator : Generator) (lines : List Bytes) (last : Tree) : Prop where
  loaded : options.effectiveSettings environmentInput tree = .ok settings
  made : options.generator settings = .ok generator
  reads : ∃ source, tree.openFile settings.input = .ok source ∧
    generator.ReadsThrough source Generator.blockSize tree 0 [] lines last

theorem Reports.unique {report other : Report}
    (reports : options.Reports environmentInput tree report)
    (reports' : options.Reports environmentInput tree other) : report = other := by
  obtain ⟨settings, generator, loaded, made, completed⟩ := reports
  obtain ⟨settings', generator', loaded', made', completed'⟩ := reports'
  obtain rfl := Except.ok.inj (loaded.symm.trans loaded')
  obtain rfl := Except.ok.inj (made.symm.trans made')
  exact Except.ok.inj (completed.symm.trans completed')

/-- A run comes to a report without a failure exactly if it reads all of its command list and
every write succeeds. -/
theorem reports_unfailed_iff :
    (∃ report, options.Reports environmentInput tree report ∧ report.hasFailures = false) ↔
      ∃ settings generator lines last,
        options.ReadsAll environmentInput tree settings generator lines last := by
  constructor
  · rintro ⟨report, ⟨settings, generator, loaded, made, completed⟩, fine⟩
    obtain ⟨source, opened, completed⟩ := Generator.runFile_eq_ok_iff.1 completed
    obtain ⟨lines, last, reads⟩ :=
      (Generator.completes_unfailed_iff settings.input).1 ⟨report, completed, fine⟩
    exact ⟨settings, generator, lines, last, loaded, made, source, opened, reads⟩
  · rintro ⟨settings, generator, lines, last, loaded, made, source, opened, reads⟩
    obtain ⟨report, completed, fine, -⟩ := reads.report settings.input
    exact ⟨report, ⟨settings, generator, loaded, made,
      Generator.runFile_eq_ok_iff.2 ⟨source, opened, completed⟩⟩, fine⟩

/-! ### Ends of runs -/

/-- How a run can end, and what it has printed then. -/
inductive Ends (options : Options) (environmentInput : Option String) (tree : Tree) :
    (result : Except Failure Report) → (output : String) → Prop where
  /-- There are no settings. -/
  | unset {fault : SettingsFault}
      (faulty : options.effectiveSettings environmentInput tree = .error fault) :
      Ends options environmentInput tree (.error (.settings fault)) ""
  /-- The command list is not run through. -/
  | failed {settings : Settings} {generator : Generator} {failure : Failure}
      (loaded : options.effectiveSettings environmentInput tree = .ok settings)
      (made : options.generator settings = .ok generator)
      (failed : (generator.runFile settings.input tree).result = .error failure) :
      Ends options environmentInput tree (.error failure) ""
  /-- The report cannot be printed. -/
  | unprinted {report : Report} {fault : ReportFault}
      (reports : options.Reports environmentInput tree report) (asked : options.reportJson = true)
      (faulty : report.toJson = .error fault) :
      Ends options environmentInput tree (.error (.report fault)) ""
  | printed {report : Report} {text : String}
      (reports : options.Reports environmentInput tree report) (asked : options.reportJson = true)
      (printable : report.toJson = .ok text) :
      Ends options environmentInput tree (.ok report) (text ++ "\n")
  /-- The report is not asked for. -/
  | silent {report : Report} (reports : options.Reports environmentInput tree report)
      (unasked : options.reportJson = false) : Ends options environmentInput tree (.ok report) ""

/-- Once there are settings, the run is that of their generator. -/
theorem perform_of_generator {settings : Settings} {generator : Generator}
    (loaded : options.effectiveSettings environmentInput tree = .ok settings)
    (made : options.generator settings = .ok generator) :
    (options.perform environmentInput tree).result =
        (options.conclude (generator.runFile settings.input tree)).result ∧
      (options.perform environmentInput tree).output =
        (options.conclude (generator.runFile settings.input tree)).output ∧
      (options.perform environmentInput tree).tree =
        (options.conclude (generator.runFile settings.input tree)).tree := by
  obtain ⟨told, performed⟩ := performBy_of_made Report.toJson loaded made
  rw [perform, performed]
  exact ⟨rfl, rfl, rfl⟩

theorem ends_perform (options : Options) (environmentInput : Option String) (tree : Tree) :
    options.Ends environmentInput tree (options.perform environmentInput tree).result
      (options.perform environmentInput tree).output := by
  cases loaded : options.effectiveSettings environmentInput tree with
  | error fault =>
      simp only [perform, performBy, loaded]
      exact Ends.unset loaded
  | ok settings =>
      obtain ⟨generator, made⟩ := exists_generator loaded
      obtain ⟨result, output, -⟩ := perform_of_generator loaded made
      rw [result, output, conclude, concludeBy]
      cases completed : (generator.runFile settings.input tree).result with
      | error failure => exact Ends.failed loaded made completed
      | ok report =>
          have reports : options.Reports environmentInput tree report :=
            ⟨settings, generator, loaded, made, completed⟩
          cases asked : options.reportJson with
          | false =>
              simp only [printedBy, asked]
              exact Ends.silent reports asked
          | true =>
              cases printable : report.toJson with
              | error fault =>
                  simp only [printedBy, asked, printable, if_true, Except.map]
                  exact Ends.unprinted reports asked printable
              | ok text =>
                  simp only [printedBy, asked, printable, if_true, Except.map]
                  exact Ends.printed reports asked printable

/-- A run ends with a report exactly if it comes to it and can print it, where this is asked
for. -/
theorem perform_eq_ok_iff {report : Report} :
    (options.perform environmentInput tree).result = .ok report ↔
      options.Reports environmentInput tree report ∧
        (options.reportJson = true → ∃ text, report.toJson = .ok text) := by
  have ends := ends_perform options environmentInput tree
  generalize (options.perform environmentInput tree).result = result at ends ⊢
  generalize (options.perform environmentInput tree).output = output at ends
  cases ends with
  | unset faulty =>
      apply iff_of_false nofun
      rintro ⟨⟨settings, generator, loaded, -⟩, -⟩
      rw [faulty] at loaded
      cases loaded
  | failed loaded made failed =>
      apply iff_of_false nofun
      rintro ⟨⟨settings, generator, loaded', made', completed⟩, -⟩
      obtain rfl := Except.ok.inj (loaded.symm.trans loaded')
      obtain rfl := Except.ok.inj (made.symm.trans made')
      rw [failed] at completed
      cases completed
  | unprinted reports asked faulty =>
      apply iff_of_false nofun
      rintro ⟨reports', printable⟩
      obtain ⟨text, printable⟩ := printable asked
      rw [← reports.unique reports', faulty] at printable
      cases printable
  | printed reports asked printable =>
      constructor
      · intro same
        obtain rfl := Except.ok.inj same
        exact ⟨reports, fun _ => ⟨_, printable⟩⟩
      · rintro ⟨reports', -⟩
        rw [reports.unique reports']
  | silent reports unasked =>
      constructor
      · intro same
        obtain rfl := Except.ok.inj same
        refine ⟨reports, ?_⟩
        rw [unasked]
        nofun
      · rintro ⟨reports', -⟩
        rw [reports.unique reports']

/-- What is printed is the report that was asked for, or nothing. -/
theorem output_perform {report : Report} {text : String}
    (reports : options.Reports environmentInput tree report) (asked : options.reportJson = true)
    (printable : report.toJson = .ok text) :
    (options.perform environmentInput tree).output = text ++ "\n" := by
  have ended := perform_eq_ok_iff.2 ⟨reports, fun _ => ⟨text, printable⟩⟩
  have ends := ends_perform options environmentInput tree
  generalize (options.perform environmentInput tree).result = result at ends ended
  generalize (options.perform environmentInput tree).output = output at ends ⊢
  cases ends with
  | unset faulty => cases ended
  | failed loaded made failed => cases ended
  | unprinted reports' asked faulty => cases ended
  | printed reports' asked printable' =>
      obtain rfl := Except.ok.inj ended
      rw [Except.ok.inj (printable.symm.trans printable')]
  | silent reports' unasked =>
      rw [asked] at unasked
      cases unasked

/-! ### The truth about a run -/

/-- The status, the output and the error of a run tell how it went. -/
structure TellsTruth (options : Options) (environmentInput : Option String) (tree : Tree) :
    Prop where
  /-- Settings that load are never the cause of a failure afterwards. -/
  builds : ∀ settings, options.effectiveSettings environmentInput tree = .ok settings →
    ∃ generator, options.generator settings = .ok generator
  /-- The status is 0 exactly if the settings load, the command list opens and is read to its end,
  no write fails, and the report can be printed where this is asked for. -/
  zero : (options.perform environmentInput tree).status = 0 ↔
    (∃ settings generator lines last,
        options.ReadsAll environmentInput tree settings generator lines last) ∧
      (options.reportJson = true →
        ∃ report text, options.Reports environmentInput tree report ∧ report.toJson = .ok text)
  /-- There is no error with the status 0, and in every other case there is one, with the
  status 1. -/
  error : (options.perform environmentInput tree).status = 0 ∧
      (options.perform environmentInput tree).errorText? = none ∨
    (options.perform environmentInput tree).status = 1 ∧
      ∃ message, (options.perform environmentInput tree).errorText? = some ("Error: " ++ message)
  /-- A report that the run has come to is printed if it is asked for and can be printed, also
  when it records failures. -/
  printed : ∀ report text, options.reportJson = true →
    options.Reports environmentInput tree report → report.toJson = .ok text →
      (options.perform environmentInput tree).output = text ++ "\n"
  /-- Nothing else is printed. -/
  silent : (¬∃ report text, options.reportJson = true ∧
      options.Reports environmentInput tree report ∧ report.toJson = .ok text) →
    (options.perform environmentInput tree).output = ""
  /-- With the status 0, every line that was read and carries a name has its file, with the content
  of the last such line of this file name, unless the run was dry. -/
  holds : (options.perform environmentInput tree).status = 0 → options.dryRun = false →
    ∃ settings generator lines, options.ReadsAll environmentInput tree settings generator lines
        (options.perform environmentInput tree).tree ∧
      ∀ line ∈ lines, ∀ launcher, generator.launcher? line = some launcher →
        ∃ final,
          ((generator.launchers lines).filter fun other =>
              other.fileName = launcher.fileName).getLast? = some final ∧
            (options.perform environmentInput tree).tree.readFile (generator.pathOf launcher) =
              .ok final.content

theorem status_eq_zero_iff :
    (options.perform environmentInput tree).status = 0 ↔
      (∃ settings generator lines last,
          options.ReadsAll environmentInput tree settings generator lines last) ∧
        (options.reportJson = true →
          ∃ report text, options.Reports environmentInput tree report ∧
            report.toJson = .ok text) := by
  rw [Completion.status_eq_zero_iff, ← reports_unfailed_iff]
  simp only [perform_eq_ok_iff]
  constructor
  · rintro ⟨report, ⟨reports, printable⟩, fine⟩
    refine ⟨⟨report, reports, fine⟩, ?_⟩
    intro asked
    obtain ⟨text, printable⟩ := printable asked
    exact ⟨report, text, reports, printable⟩
  · rintro ⟨⟨report, reports, fine⟩, printable⟩
    refine ⟨report, ⟨reports, ?_⟩, fine⟩
    intro asked
    obtain ⟨other, text, reports', printable⟩ := printable asked
    rw [reports.unique reports']
    exact ⟨text, printable⟩

theorem ReadsAll.tree_perform {settings : Settings} {generator : Generator} {lines : List Bytes}
    {last : Tree}
    (readsAll : options.ReadsAll environmentInput tree settings generator lines last) :
    (options.perform environmentInput tree).tree = last := by
  obtain ⟨source, opened, reads⟩ := readsAll.reads
  obtain ⟨report, -, -, -, left⟩ := reads.report settings.input
  rw [(perform_of_generator readsAll.loaded readsAll.made).2.2]
  exact (tree_concludeBy Report.toJson options _).trans ((Generator.tree_runFile opened).trans left)

theorem silent_perform
    (unprinted : ¬∃ report text, options.reportJson = true ∧
      options.Reports environmentInput tree report ∧ report.toJson = .ok text) :
    (options.perform environmentInput tree).output = "" := by
  have ends := ends_perform options environmentInput tree
  generalize (options.perform environmentInput tree).result = result at ends
  generalize (options.perform environmentInput tree).output = output at ends ⊢
  cases ends with
  | unset faulty => rfl
  | failed loaded made failed => rfl
  | unprinted reports asked faulty => rfl
  | printed reports asked printable =>
      exact absurd ⟨_, _, asked, reports, printable⟩ unprinted
  | silent reports unasked => rfl

/-- What a run prints is nothing, or a text that says its whole report and nothing else. -/
theorem spells_output (options : Options) (environmentInput : Option String) (tree : Tree) :
    (options.perform environmentInput tree).output = "" ∨
      ∃ report files failures, options.Reports environmentInput tree report ∧
        report.ReadsAs files failures ∧
        ∀ value, Json.Spells (options.perform environmentInput tree).output value ↔
          value = report.value files failures := by
  by_cases printed : ∃ report text, options.reportJson = true ∧
      options.Reports environmentInput tree report ∧ report.toJson = .ok text
  · obtain ⟨report, text, asked, reports, printable⟩ := printed
    obtain ⟨files, failures, reads, only⟩ := Report.spells_of_toJson printable
    have spells := ((only _).2 rfl).append_feed
    rw [output_perform reports asked printable]
    refine Or.inr ⟨report, files, failures, reports, reads, fun value => ⟨fun said => ?_, ?_⟩⟩
    · exact said.unique spells
    · rintro rfl
      exact spells
  · exact Or.inl (silent_perform printed)

theorem tellsTruth (options : Options) (environmentInput : Option String) (tree : Tree) :
    options.TellsTruth environmentInput tree := by
  constructor
  · intro settings loaded
    exact exists_generator loaded
  · exact status_eq_zero_iff
  · exact Completion.status_cases
  · intro report text asked reports printable
    exact output_perform reports asked printable
  · exact silent_perform
  · intro zero real
    obtain ⟨⟨settings, generator, lines, last, readsAll⟩, -⟩ := status_eq_zero_iff.1 zero
    obtain rfl := readsAll.tree_perform
    refine ⟨settings, generator, lines, readsAll, ?_⟩
    intro line mem launcher found
    obtain ⟨accepted, dryRun, -⟩ := isAccepted_of_generator readsAll.made
    obtain ⟨source, -, reads⟩ := readsAll.reads
    exact reads.holds accepted (dryRun.trans real) (List.mem_filterMap.2 ⟨line, mem, found⟩)

end Options

namespace Invocation

/-- The status and the output tell the truth about every run, whatever the options, the tree and
the input path of the environment; and an invocation that asks for a run passes on what comes of
it. -/
theorem status_tells_truth (options : Options) (environmentInput : Option String) (tree : Tree) :
    options.TellsTruth environmentInput tree ∧
      ∀ arguments environment extended, Request.ofArguments arguments = .run options →
        Environment.extended? environment tree = some extended →
        extended.text? inputVariable = environmentInput →
          (perform arguments environment tree).status =
              (options.perform environmentInput tree).status ∧
            (perform arguments environment tree).output =
              (options.perform environmentInput tree).output ∧
            (perform arguments environment tree).error =
              (options.perform environmentInput tree).errorText? ∧
            (perform arguments environment tree).tree =
              (options.perform environmentInput tree).tree := by
  refine ⟨options.tellsTruth environmentInput tree, ?_⟩
  rintro arguments environment extended parsed complete rfl
  simp only [perform, performBy, complete, parsed, Options.resultIn, and_self]

/-- A working directory with a command list of one line. -/
def listed : Tree :=
  Tree.root.put [] (Utf8.ofString "assetchains.old") (.file (Utf8.ofString "-ac_name=DEX &\n"))

/-- The list is read through and the launcher of its line is written, so the status is 0. -/
theorem status_tells_truth_of_list : (Options.perform {} none listed).status = 0 := by
  have found : Generator.standard.launcher? (Utf8.ofString "-ac_name=DEX &\n") =
      some ⟨Utf8.ofString "DEX", Utf8.ofString "dex.cmd", Utf8.ofString "-ac_name=DEX"⟩ := rfl
  have block : (Source.file [Utf8.ofString "assetchains.old"] Source.lastOffset).read listed 0
      Generator.blockSize = .ok (Utf8.ofString "-ac_name=DEX &\n") := rfl
  have cut : Line.cut ([] ++ Utf8.ofString "-ac_name=DEX &\n") =
      ([Utf8.ofString "-ac_name=DEX &\n"], []) := rfl
  obtain ⟨last, writes, ended⟩ : ∃ last,
      Generator.standard.WritesAll listed [Utf8.ofString "-ac_name=DEX &\n"] last ∧
      (Source.file [Utf8.ofString "assetchains.old"] Source.lastOffset).read last 15
        Generator.blockSize = .ok [] :=
    ⟨_, Generator.WritesAll.write found rfl (Generator.WritesAll.done _), rfl⟩
  have manages := (Generator.manages_real (rfl : Generator.standard.dryRun = false)).2 writes
  have reads := Generator.ReadsThrough.block block (by decide) cut manages
    (Generator.ReadsThrough.ended ended)
  obtain ⟨truth, -⟩ := status_tells_truth {} none listed
  apply truth.zero.2
  exact ⟨⟨Settings.standard, Generator.standard, _, last, rfl, rfl, _, rfl, reads⟩, nofun⟩

end Invocation

end ChainLaunchers
