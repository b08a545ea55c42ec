/-
Module: ChainLaunchers.Proofs.Run.Log
Purpose: The log of a run tells what it has done: which files it has written, also when it ends
  early, and the report of a run that is complete.
Trusted boundary: none
Main exports:
  Generator.writes, Generator.writes_eq, Generator.unnamed, Generator.repeats,
  Event.filterMap_ofFates, Generator.TellsReport, Generator.Tells, Generator.tells_outcome,
  Generator.log_tells_run
-/
import ChainLaunchers.Proofs.Event
import ChainLaunchers.Proofs.Run.CleanLines

namespace ChainLaunchers

namespace Generator

/-! ### What is told -/

/-- The writes that come about for some lines, with the failure of each, and the tree after them.
A dry run writes nothing. -/
def writes (generator : Generator) (tree : Tree) :
    List Bytes → List (Path × Option IoError) × Tree
  | [] => ([], tree)
  | line :: rest =>
    match generator.launcher? line with
    | none => generator.writes tree rest
    | some launcher =>
      if generator.dryRun then generator.writes tree rest
      else
        match tree.writeFile (generator.pathOf launcher) launcher.content with
        | ⟨next, failure⟩ =>
          if failure.isSome && !generator.keepGoing then
            ([(generator.pathOf launcher, failure)], next)
          else
            ((generator.pathOf launcher, failure) :: (generator.writes next rest).1,
              (generator.writes next rest).2)

/-- The numbers of the lines without a chain name, where the first line has the given number. -/
def unnamed (generator : Generator) (first : Nat) (lines : List Bytes) : List Nat :=
  ((lines.zipIdx first).filter fun numbered => (generator.launcher? numbered.1).isNone).map Prod.snd

/-- The file name of a line, if an earlier line has it too. -/
def repeated? (generator : Generator) (earlier : List Bytes) (line : Bytes) : Option Name :=
  ((generator.launcher? line).map Launcher.fileName).filter
    ((generator.launchers earlier).map Launcher.fileName).contains

/-- The numbers of the lines with the file name of an earlier line, and these names. -/
def repeats (generator : Generator) (lines : List Bytes) : List (Nat × Name) :=
  lines.zipIdx.filterMap fun numbered =>
    (generator.repeated? (lines.take numbered.2) numbered.1).map fun fileName =>
      (numbered.2 + 1, fileName)

/-- What the log of a complete run over some lines tells of its report. -/
structure TellsReport (generator : Generator) (lines : List Bytes) (report : Report)
    (log : List Event) : Prop where
  /-- A dry run tells of no file as written. -/
  written : Event.Kind.wrote.Lists log (if generator.dryRun then [] else report.written)
    Event.wrote Utf8.toStringLossy
  /-- A dry run tells what it would write, with the contents. -/
  planned : Event.Kind.planned.Lists log
    (if generator.dryRun then generator.launchers lines else [])
    (fun launcher => .planned (generator.pathOf launcher) launcher.content)
    fun launcher => Utf8.toStringLossy (generator.pathOf launcher) ++ ": " ++
      Utf8.toStringLossy launcher.content
  plans : generator.dryRun = true →
    report.written = (generator.launchers lines).map generator.pathOf
  failed : Event.Kind.refused.Lists log report.failed
    (fun failed => .refused failed.path failed.cause)
    fun failed => Utf8.toStringLossy failed.path ++ ": " ++ failed.cause.message
  skipped : Event.Kind.skipped.Lists log (generator.unnamed 1 lines) Event.skipped
    fun line => toString line
  increasing : (generator.unnamed 1 lines).Pairwise (· < ·)
  unmatched : (generator.unnamed 1 lines).length + report.linesMatched = report.linesRead
  repeated : Event.Kind.repeated.Lists log (generator.repeats lines)
    (fun again => .repeated again.1 again.2)
    fun again => toString again.1 ++ ": " ++ Utf8.toStringLossy again.2
  overwritten : (generator.repeats lines).length = report.overwritten
  /-- There is one summary. -/
  summary : Event.Kind.summary.Lists log [report] Report.summary
    fun report => toString report.linesRead ++ " lines: " ++ toString report.linesMatched ++
      " matched, " ++ toString report.written.length ++ " files written, " ++
      toString report.failed.length ++ " failed"
  /-- The summary comes last. -/
  last : log.getLast? = some report.summary

/-- What is seen of a run over some lines is what it has done, also if it ends early. -/
structure Tells (generator : Generator) (tree : Tree) (lines : List Bytes)
    (outcome : Outcome) : Prop where
  /-- The files that are told to be written are the writes that succeeded, in their order. -/
  written : Event.Kind.wrote.Lists outcome.events
    (((generator.writes tree lines).1.filter fun (_, failure) => failure.isNone).map Prod.fst)
    Event.wrote Utf8.toStringLossy
  last : outcome.tree = (generator.writes tree lines).2
  completed : ∀ report, outcome.result = .ok report →
    generator.TellsReport lines report outcome.events
  /-- A run that ends early has no summary. -/
  aborted : ∀ failure, outcome.result = .error failure →
    outcome.events.filter (Event.Kind.summary.Covers ·) = []
  /-- The log holds nothing else. -/
  known : ∀ event ∈ outcome.events, ∃ kind ∈ Event.Kind.all, kind.Covers event

variable {generator : Generator}

/-! ### Writes and fates -/

/-- The write of a line with this fate. -/
def write? (generator : Generator) : Fate → Option (Path × Option IoError)
  | .written launcher => some (generator.pathOf launcher, none)
  | .refused launcher cause | .fatal launcher cause =>
    some (generator.pathOf launcher, some cause)
  | .skipped | .planned _ => none

/-- The writes for some lines are those that their fates tell of. -/
theorem writes_eq (generator : Generator) (tree : Tree) (lines : List Bytes) :
    generator.writes tree lines =
      ((generator.treatAll tree lines).1.filterMap generator.write?,
        (generator.treatAll tree lines).2) := by
  induction lines generalizing tree with
  | nil => rfl
  | cons line rest ih =>
      rw [treatAll_cons]
      cases found : generator.launcher? line with
      | none =>
          simp only [writes, found, treat_skipped found, ih]
          rfl
      | some launcher =>
          cases flag : generator.dryRun with
          | true =>
              simp only [writes, found, flag, if_true, treat_planned flag found, ih]
              rfl
          | false =>
              cases attempt : tree.writeFile (generator.pathOf launcher) launcher.content with
              | mk next failure =>
                  cases failure with
                  | none =>
                      simp only [writes, found, flag, attempt, treat_written flag found attempt, ih]
                      rfl
                  | some cause =>
                      simp only [writes, found, flag, attempt, treat_failed flag found attempt, ih]
                      cases generator.keepGoing <;> rfl

/-- In a dry run nothing is attempted, and in a real one all launchers are. -/
theorem attempted?_of_mem_treatAll {tree : Tree} {lines : List Bytes} {fate : Fate}
    (mem : fate ∈ (generator.treatAll tree lines).1) :
    fate.attempted? = if generator.dryRun then none else fate.launcher? := by
  obtain ⟨before, line, -, rfl⟩ := exists_treat_of_mem_treatAll mem
  have step := treated_treat generator before line
  generalize generator.treat before line = treated at step ⊢
  cases step with
  | skipped unnamed => exact (ite_self none).symm
  | planned found dry =>
      rw [dry]
      rfl
  | written found real written =>
      rw [real]
      rfl
  | failed found real failed =>
      rw [real]
      split <;> rfl

/-! ### Numbers of lines -/

theorem unnamed_cons (generator : Generator) (first : Nat) (line : Bytes) (rest : List Bytes) :
    generator.unnamed first (line :: rest) =
      if (generator.launcher? line).isNone then first :: generator.unnamed (first + 1) rest
      else generator.unnamed (first + 1) rest := by
  rw [unnamed, List.zipIdx_cons, List.filter_cons]
  split <;> rfl

theorem unnamed_sublist (generator : Generator) (first : Nat) (lines : List Bytes) :
    (generator.unnamed first lines).Sublist (List.range' first lines.length) := by
  have all := (List.filter_sublist (l := lines.zipIdx first)
    (p := fun numbered => (generator.launcher? numbered.1).isNone)).map Prod.snd
  rwa [List.zipIdx_map_snd] at all

/-- Lines without a chain name and lines with one make up all lines. -/
theorem length_unnamed (generator : Generator) (first : Nat) (lines : List Bytes) :
    (generator.unnamed first lines).length +
        (lines.countP fun line => (generator.launcher? line).isSome) = lines.length := by
  induction lines generalizing first with
  | nil => rfl
  | cons line rest ih =>
      have others := ih (first + 1)
      rw [unnamed_cons, List.countP_cons, List.length_cons]
      cases generator.launcher? line with
      | none =>
          simp only [Option.isNone_none, if_true, Option.isSome_none, List.length_cons,
            Bool.false_eq_true, if_false]
          omega
      | some launcher =>
          simp only [Option.isNone_some, Bool.false_eq_true, if_false, Option.isSome_some, if_true]
          omega

theorem unnamed_increasing (generator : Generator) (first : Nat) (lines : List Bytes) :
    (generator.unnamed first lines).Pairwise (· < ·) :=
  List.Pairwise.sublist (unnamed_sublist generator first lines) List.pairwise_lt_range'

end Generator

/-! ### Events and fates -/

theorem Fate.eq_skipped {fate : Fate} (unnamed : fate.launcher? = none) : fate = .skipped := by
  cases fate with
  | skipped => rfl
  | planned launcher => cases unnamed
  | written launcher => cases unnamed
  | refused launcher cause => cases unnamed
  | fatal launcher cause => cases unnamed

namespace Event

variable {generator : Generator}

/-- Whether a line has the file name of an earlier one is of no matter for other events. -/
theorem filterMap_repeated {α : Type} {pick : Event → Option α}
    (repeats : ∀ line fileName, pick (.repeated line fileName) = none) (number : Nat)
    (seen : List Name) (launcher : Launcher) :
    (if launcher.fileName ∈ seen then
      [Event.repeated number launcher.fileName] else []).filterMap pick = [] := by
  split
  · exact List.filterMap_cons_none (repeats _ _)
  · rfl

/-- Events that each line tells by its own fate come in the order of the lines. -/
theorem filterMap_ofFates {α : Type} {pick : Event → Option α} {told : Fate → Option α}
    (skips : ∀ line, pick (.skipped line) = told .skipped)
    (repeats : ∀ line fileName, pick (.repeated line fileName) = none) {fates : List Fate}
    (tells : ∀ fate ∈ fates, (fate.events generator).filterMap pick = (told fate).toList)
    (number : Nat) (seen : List Name) :
    (Event.ofFates generator number seen fates).filterMap pick = fates.filterMap told := by
  induction fates generalizing number seen with
  | nil => rfl
  | cons fate rest ih =>
      obtain ⟨here, others⟩ := List.forall_mem_cons.1 tells
      cases named : fate.launcher? with
      | none =>
          obtain rfl := Fate.eq_skipped named
          simp only [Event.ofFates, Fate.launcher?, List.filterMap_cons, skips]
          rw [ih others]
      | some launcher =>
          simp only [Event.ofFates, named, List.filterMap_append,
            filterMap_repeated repeats, here, List.nil_append, ih others]
          cases same : told fate with
          | none => rw [List.filterMap_cons_none same, Option.toList_none, List.nil_append]
          | some value =>
              rw [List.filterMap_cons_some same, Option.toList_some, List.singleton_append]

/-- The lines that are told to be skipped are those without a chain name. -/
theorem skipped_ofFates {lines : List Bytes} {fates : List Fate}
    (named : fates.map Fate.launcher? = lines.map generator.launcher?) (number : Nat)
    (seen : List Name) :
    (Event.ofFates generator number seen fates).filterMap Event.skipped? =
      generator.unnamed number lines := by
  have own : ∀ fate : Fate, (fate.events generator).filterMap Event.skipped? = [] := by
    intro fate
    cases fate <;> rfl
  induction fates generalizing number seen lines with
  | nil =>
      obtain rfl := List.map_eq_nil_iff.1 named.symm
      rfl
  | cons fate rest ih =>
      obtain ⟨line, others, rfl, same, behind⟩ := List.map_eq_cons_iff.1 named.symm
      rw [Generator.unnamed_cons, same]
      cases found : fate.launcher? with
      | none => simp [Event.ofFates, found, Event.skipped?, ih behind.symm]
      | some launcher =>
          have nothing := filterMap_repeated (fun _ _ => rfl : ∀ line fileName,
            Event.skipped? (.repeated line fileName) = none) number seen launcher
          simp [Event.ofFates, found, nothing, own, ih behind.symm]

/-- What a line tells by its own fate is not that it replaces an earlier one. -/
theorem filterMap_repeated_events (fate : Fate) :
    (fate.events generator).filterMap Event.repeated? = [] := by
  cases fate <;> rfl

/-- The lines that are told to replace an earlier one are those with its file name. -/
theorem repeated_ofFates {earlier rest : List Bytes} {seen : List Name} {fates : List Fate}
    (named : fates.map Fate.launcher? = rest.map generator.launcher?)
    (known : ∀ fileName,
      fileName ∈ seen ↔ fileName ∈ (generator.launchers earlier).map Launcher.fileName) :
    (Event.ofFates generator (earlier.length + 1) seen fates).filterMap Event.repeated? =
      (rest.zipIdx earlier.length).filterMap fun numbered =>
        (generator.repeated? ((earlier ++ rest).take numbered.2) numbered.1).map fun fileName =>
          (numbered.2 + 1, fileName) := by
  induction fates generalizing earlier rest seen with
  | nil =>
      obtain rfl := List.map_eq_nil_iff.1 named.symm
      rfl
  | cons fate fates ih =>
      obtain ⟨line, others, rfl, same, behind⟩ := List.map_eq_cons_iff.1 named.symm
      have later {seen : List Name} := @ih (earlier ++ [line]) others seen behind.symm
      simp only [List.append_assoc, List.singleton_append, List.length_append,
        List.length_singleton] at later
      cases found : fate.launcher? with
      | none =>
          have plain : generator.repeated? earlier line = none := by
            rw [Generator.repeated?, same, found]
            rfl
          have known' : ∀ fileName, fileName ∈ seen ↔
              fileName ∈ (generator.launchers (earlier ++ [line])).map Launcher.fileName := by
            intro fileName
            rw [known, Generator.launchers, Generator.launchers]
            simp [same, found]
          simpa [List.zipIdx_cons, List.filterMap_cons, plain, Event.ofFates, found,
            Event.repeated?] using later known'
      | some launcher =>
          have known' : ∀ fileName, fileName ∈ launcher.fileName :: seen ↔
              fileName ∈ (generator.launchers (earlier ++ [line])).map Launcher.fileName := by
            intro fileName
            rw [List.mem_cons, known, Generator.launchers, Generator.launchers]
            simp [same, found, or_comm]
          by_cases old : launcher.fileName ∈ seen
          · have marked : generator.repeated? earlier line = some launcher.fileName := by
              rw [Generator.repeated?, same, found]
              simpa [Option.filter] using (known _).1 old
            simp [List.zipIdx_cons, marked, Event.ofFates, found, Event.repeated?, later known',
              old, filterMap_repeated_events]
          · have plain : generator.repeated? earlier line = none := by
              rw [Generator.repeated?, same, found]
              simpa [Option.filter] using mt (known _).2 old
            simp [List.zipIdx_cons, plain, Event.ofFates, found, Event.repeated?, later known',
              old, filterMap_repeated_events]

/-- There are as many lines told to replace an earlier one as file names are repeated. -/
theorem length_repeated_ofFates (generator : Generator) (fates : List Fate) (number : Nat)
    (seen : List Name) :
    ((Event.ofFates generator number seen fates).filterMap Event.repeated?).length =
      countRepeated seen ((fates.filterMap Fate.launcher?).map Launcher.fileName) := by
  induction fates generalizing number seen with
  | nil => rfl
  | cons fate rest ih =>
      cases named : fate.launcher? with
      | none =>
          rw [List.filterMap_cons_none named, ← ih (number + 1)]
          simp only [Event.ofFates, named]
          rfl
      | some launcher =>
          simp only [Event.ofFates, named, List.filterMap_append, filterMap_repeated_events,
            List.length_append, ih, List.filterMap_cons_some named, List.map_cons, countRepeated,
            List.append_nil]
          split <;> rfl

/-- The lines themselves tell no summary. -/
theorem summary_ofFates (generator : Generator) (fates : List Fate) (number : Nat)
    (seen : List Name) :
    (Event.ofFates generator number seen fates).filterMap Event.summary? = [] := by
  have nothing : ∀ fate ∈ fates, (fate.events generator).filterMap Event.summary? =
      ((fun _ => none) fate : Option _).toList := by
    intro fate _
    cases fate <;> rfl
  rw [filterMap_ofFates (fun _ => rfl) (fun _ _ => rfl) nothing]
  exact List.filterMap_none fates

end Event

namespace Generator

variable {generator : Generator} {tree : Tree} {lines : List Bytes}

/-! ### Events of a run -/

/-- The files that are told to be written are those of the writes that succeed. -/
theorem wrote_ofFates (generator : Generator) (fates : List Fate) :
    (Event.ofFates generator 1 [] fates).filterMap Event.wrote? =
      ((fates.filterMap generator.write?).filter fun (_, failure) => failure.isNone).map
        Prod.fst := by
  have tells : ∀ fate ∈ fates, (fate.events generator).filterMap Event.wrote? =
      ((fun fate => ((generator.write? fate).filter fun (_, failure) => failure.isNone).map
        Prod.fst) fate).toList := by
    intro fate _
    cases fate <;> rfl
  rw [Event.filterMap_ofFates (fun _ => rfl) (fun _ _ => rfl) tells, List.filter_filterMap,
    List.map_filterMap]

/-- A dry run tells of its launchers as planned, and a real one as written. -/
theorem done_events {fate : Fate} (mem : fate ∈ (generator.treatAll tree lines).1) :
    (fate.events generator).filterMap Event.wrote? =
        (if generator.dryRun then none else fate.done?.map generator.pathOf).toList ∧
      (fate.events generator).filterMap Event.planned? =
        (if generator.dryRun then
          fate.launcher?.map fun launcher => (generator.pathOf launcher, launcher.content)
        else none).toList := by
  have attempted := attempted?_of_mem_treatAll mem
  cases flag : generator.dryRun with
  | true =>
      rw [flag, if_pos rfl] at attempted
      cases fate with
      | written launcher | refused launcher cause | fatal launcher cause => cases attempted
      | skipped | planned launcher => exact ⟨rfl, rfl⟩
  | false =>
      rw [flag, if_neg Bool.false_ne_true] at attempted
      cases fate with
      | planned launcher => cases attempted
      | _ => exact ⟨rfl, rfl⟩

/-- The files that are told to be written are those of the report, if the run is real. -/
theorem written_told (generator : Generator) (tree : Tree) (lines : List Bytes) :
    (Event.ofFates generator 1 [] (generator.treatAll tree lines).1).filterMap Event.wrote? =
      if generator.dryRun then []
      else (Report.ofFates generator (generator.treatAll tree lines).1).written := by
  rw [Event.filterMap_ofFates (fun _ => (ite_self none).symm) (fun _ _ => rfl)
    fun _ mem => (done_events mem).1]
  split
  · exact List.filterMap_none _
  · exact List.map_filterMap.symm

/-- The files that are told to be planned are those of all launchers, if the run is dry. -/
theorem planned_told (generator : Generator) (tree : Tree) (lines : List Bytes) :
    (Event.ofFates generator 1 [] (generator.treatAll tree lines).1).filterMap Event.planned? =
      if generator.dryRun then
        ((generator.treatAll tree lines).1.filterMap Fate.launcher?).map fun launcher =>
          (generator.pathOf launcher, launcher.content)
      else [] := by
  rw [Event.filterMap_ofFates (fun _ => (ite_self none).symm) (fun _ _ => rfl)
    fun _ mem => (done_events mem).2]
  split
  · exact List.map_filterMap.symm
  · exact List.filterMap_none _

/-- In a dry run every launcher is planned. -/
theorem done_of_dryRun (dry : generator.dryRun = true) :
    (generator.treatAll tree lines).1.filterMap Fate.done? =
      (generator.treatAll tree lines).1.filterMap Fate.launcher? := by
  apply List.filterMap_congr
  intro fate mem
  have attempted := attempted?_of_mem_treatAll mem
  rw [dry, if_pos rfl] at attempted
  cases fate with
  | written launcher | refused launcher cause | fatal launcher cause => cases attempted
  | skipped | planned launcher => rfl

/-- The files that are told to have failed are those of the report. -/
theorem failed_told (generator : Generator) (fates : List Fate) :
    (Event.ofFates generator 1 [] fates).filterMap Event.refused? =
      (Report.ofFates generator fates).failed.map fun failed => (failed.path, failed.cause) := by
  have tells : ∀ fate ∈ fates, (fate.events generator).filterMap Event.refused? =
      ((fun fate => (Fate.refused? fate).map fun failed =>
        (generator.pathOf failed.1, failed.2)) fate).toList := by
    intro fate _
    cases fate <;> rfl
  rw [Event.filterMap_ofFates (fun _ => rfl) (fun _ _ => rfl) tells, Report.ofFates, List.map_map]
  exact List.map_filterMap.symm

/-- The lines tell nothing but what a run over a command list tells. -/
theorem known_ofFates {number : Nat} {seen : List Name} {fates : List Fate} {event : Event}
    (mem : event ∈ Event.ofFates generator number seen fates) :
    ∃ kind ∈ Event.Kind.all, kind.Covers event := by
  rcases Event.mem_ofFates mem with ⟨line, rfl⟩ | ⟨line, fileName, rfl⟩ | ⟨fate, -, own⟩
  · exact Event.Kind.picks_skipped.exists_covers (by simp [Event.Kind.all]) rfl
  · exact Event.Kind.picks_repeated.exists_covers (by simp [Event.Kind.all]) rfl
  · cases fate with
    | skipped => cases own
    | fatal launcher cause => cases own
    | planned launcher =>
        obtain rfl := List.mem_singleton.1 own
        exact Event.Kind.picks_planned.exists_covers (by simp [Event.Kind.all]) rfl
    | written launcher =>
        obtain rfl := List.mem_singleton.1 own
        exact Event.Kind.picks_wrote.exists_covers (by simp [Event.Kind.all]) rfl
    | refused launcher cause =>
        obtain rfl := List.mem_singleton.1 own
        exact Event.Kind.picks_refused.exists_covers (by simp [Event.Kind.all]) rfl

/-! ### Complete runs -/

theorem filterMap_summary {α : Type} {pick : Event → Option α}
    (other : ∀ read matched written failed, pick (.finished read matched written failed) = none)
    (events : List Event) (report : Report) :
    (events ++ [report.summary]).filterMap pick = events.filterMap pick := by
  rw [List.filterMap_append, Report.summary, List.filterMap_cons_none (other _ _ _ _),
    List.filterMap_nil, List.append_nil]

/-- A complete run tells its report. -/
theorem tellsReport_of_going (going : stops (generator.treatAll tree lines).1 = false) :
    generator.TellsReport lines (Report.ofFates generator (generator.treatAll tree lines).1)
      (Event.ofFates generator 1 [] (generator.treatAll tree lines).1 ++
        [(Report.ofFates generator (generator.treatAll tree lines).1).summary]) := by
  have launchers := filterMap_launcher? going
  have named := treatAll_launcher? going
  have repeated : (Event.ofFates generator 1 [] (generator.treatAll tree lines).1).filterMap
      Event.repeated? = generator.repeats lines :=
    @Event.repeated_ofFates generator [] lines [] _ named fun _ => Iff.rfl
  constructor
  · apply Event.Kind.picks_wrote.lists
    rw [filterMap_summary (fun _ _ _ _ => rfl), written_told]
  · apply Event.Kind.picks_planned.lists_map fun launcher =>
      (generator.pathOf launcher, launcher.content)
    rw [filterMap_summary (fun _ _ _ _ => rfl), planned_told, launchers, apply_ite (List.map _)]
    rfl
  · intro dry
    rw [Report.ofFates, done_of_dryRun dry, launchers]
  · apply Event.Kind.picks_refused.lists_map fun failed : FailedWrite => (failed.path, failed.cause)
    rw [filterMap_summary (fun _ _ _ _ => rfl), failed_told]
  · apply Event.Kind.picks_skipped.lists
    rw [filterMap_summary (fun _ _ _ _ => rfl), Event.skipped_ofFates named]
  · exact unnamed_increasing generator 1 lines
  · have adds := addsUp_of_going going
    rw [adds.matched, adds.read, length_unnamed]
  · apply Event.Kind.picks_repeated.lists
    rw [filterMap_summary (fun _ _ _ _ => rfl), repeated]
  · rw [← repeated, Event.length_repeated_ofFates]
    rfl
  · apply Event.Kind.picks_summary.lists_map fun report : Report =>
      (report.linesRead, report.linesMatched, report.written.length, report.failed.length)
    rw [List.filterMap_append, Event.summary_ofFates]
    rfl
  · exact List.getLast?_concat

/-- What is seen of a run that treats some lines is what it has done for them. -/
theorem tells_outcome {run : Run} (fates : run.fates = (generator.treatAll tree lines).1)
    (last : run.tree = (generator.treatAll tree lines).2) (label : Path) :
    generator.Tells tree lines (run.outcome generator label) := by
  have ledger := run.ledger_eq_ofFates generator
  constructor
  · apply Event.Kind.picks_wrote.lists
    rw [writes_eq, ← wrote_ofFates, ← fates, Run.outcome, Run.events, ledger,
      List.filterMap_append]
    cases run.result generator label with
    | ok report => exact List.append_nil _
    | error failure => exact List.append_nil _
  · rw [writes_eq]
    exact last
  · intro report (completed : run.result generator label = .ok report)
    obtain ⟨going, -, same⟩ := going_of_result label completed
    simp only [Run.outcome, Run.events, completed, ← same, ledger]
    rw [fates] at going ⊢
    exact tellsReport_of_going going
  · intro failure (failed : run.result generator label = .error failure)
    have unfinished := Event.summary_ofFates generator run.fates 1 []
    simp only [Run.outcome, Run.events, failed, List.append_nil, ledger]
    exact (Event.Kind.picks_summary.lists unfinished).events
  · intro event mem
    simp only [Run.outcome, Run.events, ledger, List.mem_append] at mem
    rcases mem with told | summary
    · exact known_ofFates told
    · split at summary
      · obtain rfl := List.mem_singleton.1 summary
        exact Event.Kind.picks_summary.exists_covers (by simp [Event.Kind.all]) rfl
      · cases summary

/-- The events of a run are a faithful record, whatever it reads: they tell the writes that have
succeeded, also if the run ends early, and they tell the report of a complete run.  The lines are
those that a reader delivers before it ends or fails. -/
theorem log_tells_run (generator : Generator) (source : Source) (size : Nat) (label : Path)
    (tree : Tree) : ∃ lines,
      (∀ data failure, source = .memory data failure → 0 < size →
        lines = Line.delivered data failure) ∧
      generator.Tells tree lines (generator.runOver source size label tree) := by
  by_cases memory : ∃ data failure, source = .memory data failure ∧ 0 < size
  · obtain ⟨data, failure, rfl, positive⟩ := memory
    have fold := run_memory generator positive data failure tree
    refine ⟨Line.delivered data failure, ?_, ?_⟩
    · intro data failure same _
      cases same
      rfl
    · exact tells_outcome (by rw [fold, runOfLines]) (by rw [fold, runOfLines]) label
  · obtain ⟨lines, -, fates, last⟩ :=
      exists_lines_readLines generator source size tree 0 List.not_mem_nil
    refine ⟨lines, ?_, tells_outcome fates last label⟩
    intro data failure same positive
    exact absurd ⟨data, failure, same, positive⟩ memory

end Generator

end ChainLaunchers
