/-
Module: ChainLaunchers.Proofs.Run.Agreement
Purpose: A run that stops at the first failing write and a run that records failing writes go in
  step up to the first failure, and do the same if there is none.
Trusted boundary: none
Main exports:
  Generator.stopping, Generator.recording, Generator.treat_stopping,
  Generator.treatAll_stopping_of_unrefused, Generator.RefusesFirst, Generator.Agrees,
  Generator.stopping_agrees_with_recording
-/
import ChainLaunchers.Proofs.Run.Abort

namespace ChainLaunchers

/-- The fate of a line where a write that fails ends the run. -/
def Fate.stopped : Fate → Fate
  | .refused launcher cause => .fatal launcher cause
  | fate => fate

theorem Fate.stopped_of_unrefused {fate : Fate} (unrefused : fate.refused? = none) :
    fate.stopped = fate := by
  cases fate with
  | refused launcher cause => cases unrefused
  | skipped => rfl
  | planned launcher => rfl
  | written launcher => rfl
  | fatal launcher cause => rfl

theorem Fate.eq_of_refused? {fate : Fate} {launcher : Launcher} {cause : IoError}
    (refused : fate.refused? = some (launcher, cause)) : fate = .refused launcher cause := by
  cases fate with
  | refused own reason =>
      cases refused
      rfl
  | skipped => cases refused
  | planned launcher => cases refused
  | written launcher => cases refused
  | fatal launcher cause => cases refused

namespace Generator

/-! ### The two modes -/

/-- The generator that ends a run at the first write that fails. -/
def stopping (generator : Generator) : Generator := { generator with keepGoing := false }

/-- The generator that records writes that fail, and goes on. -/
def recording (generator : Generator) : Generator := { generator with keepGoing := true }

variable {generator : Generator}

/-- Both modes do the same to the tree, and what the one records is fatal in the other. -/
theorem treat_stopping (generator : Generator) (tree : Tree) (line : Bytes) :
    generator.stopping.treat tree line =
      ((generator.recording.treat tree line).1.stopped,
        (generator.recording.treat tree line).2) := by
  have step := treated_treat generator.recording tree line
  generalize generator.recording.treat tree line = treated at step ⊢
  cases step with
  | skipped unnamed => exact @treat_skipped generator.stopping tree line unnamed
  | planned found dry => exact @treat_planned generator.stopping tree line dry _ found
  | written found real written =>
      exact @treat_written generator.stopping tree line real _ found _ written
  | failed found real failed =>
      exact @treat_failed generator.stopping tree line real _ found _ _ failed

theorem stops_recording (generator : Generator) (tree : Tree) (lines : List Bytes) :
    stops (generator.recording.treatAll tree lines).1 = false :=
  stops_treatAll_of_keepGoing rfl tree lines

/-- Where failures are recorded, lines after others are always treated. -/
theorem treatAll_recording_append (generator : Generator) (tree : Tree)
    (first second : List Bytes) :
    generator.recording.treatAll tree (first ++ second) =
      ((generator.recording.treatAll tree first).1 ++
          (generator.recording.treatAll (generator.recording.treatAll tree first).2 second).1,
        (generator.recording.treatAll (generator.recording.treatAll tree first).2 second).2) := by
  rw [treatAll_append, stops_recording, if_neg Bool.false_ne_true]

theorem treatAll_recording_cons (generator : Generator) (tree : Tree) (line : Bytes)
    (rest : List Bytes) :
    generator.recording.treatAll tree (line :: rest) =
      ((generator.recording.treat tree line).1 ::
          (generator.recording.treatAll (generator.recording.treat tree line).2 rest).1,
        (generator.recording.treatAll (generator.recording.treat tree line).2 rest).2) := by
  rw [treatAll_cons, fatal?_treat_of_keepGoing rfl, Option.isSome_none, if_neg Bool.false_ne_true]

/-! ### Lines without a failure -/

/-- As long as nothing is recorded, the modes do the same. -/
theorem treatAll_stopping_of_unrefused {tree : Tree} {lines : List Bytes}
    (unrefused : (generator.recording.treatAll tree lines).1.filterMap Fate.refused? = []) :
    generator.stopping.treatAll tree lines = generator.recording.treatAll tree lines := by
  induction lines generalizing tree with
  | nil => rfl
  | cons line rest ih =>
      have harmless : (generator.recording.treat tree line).1.fatal? = none :=
        fatal?_treat_of_keepGoing rfl tree line
      rw [treatAll_recording_cons] at unrefused ⊢
      cases here : (generator.recording.treat tree line).1.refused? with
      | some refusal =>
          rw [List.filterMap_cons_some here] at unrefused
          cases unrefused
      | none =>
          rw [List.filterMap_cons_none here] at unrefused
          rw [treatAll_cons, treat_stopping]
          simp only [Fate.stopped_of_unrefused here, harmless, Option.isSome_none,
            Bool.false_eq_true, if_false, ih unrefused]

/-! ### The first failure -/

/-- After lines without a failure, the write of this line is the first that is recorded, with
this cause and leaving this tree. -/
structure RefusesFirst (generator : Generator) (first : Tree) (before : List Bytes) (line : Bytes)
    (launcher : Launcher) (cause : IoError) (last : Tree) : Prop where
  unrefused : (generator.recording.treatAll first before).1.filterMap Fate.refused? = []
  refused : generator.recording.treat (generator.recording.treatAll first before).2 line =
    (.refused launcher cause, last)

/-- What is recorded first belongs to a line before which nothing is recorded. -/
theorem exists_refusesFirst {tree : Tree} {lines : List Bytes} {launcher : Launcher}
    {cause : IoError} {more : List (Launcher × IoError)}
    (recorded : (generator.recording.treatAll tree lines).1.filterMap Fate.refused? =
      (launcher, cause) :: more) :
    ∃ before line after last, lines = before ++ line :: after ∧
      generator.RefusesFirst tree before line launcher cause last := by
  induction lines generalizing tree with
  | nil => cases recorded
  | cons line rest ih =>
      rw [treatAll_recording_cons] at recorded
      cases treated : generator.recording.treat tree line with
      | mk fate next =>
          rw [treated] at recorded
          cases here : fate.refused? with
          | some refusal =>
              rw [List.filterMap_cons_some here, List.cons.injEq] at recorded
              obtain ⟨rfl, -⟩ := recorded
              rw [Fate.eq_of_refused? here] at treated
              exact ⟨[], line, rest, next, rfl, rfl, treated⟩
          | none =>
              rw [List.filterMap_cons_none here] at recorded
              obtain ⟨before, failing, after, last, rfl, unrefused, refused⟩ := ih recorded
              refine ⟨line :: before, failing, after, last, rfl, ?_, ?_⟩
              · rw [treatAll_recording_cons, treated, List.filterMap_cons_none here]
                exact unrefused
              · rw [treatAll_recording_cons, treated]
                exact refused

section

variable {tree last : Tree} {before : List Bytes} {line : Bytes} {launcher : Launcher}
  {cause : IoError} (first : generator.RefusesFirst tree before line launcher cause last)

include first

/-- The recording run up to the line has this failure as its only one. -/
theorem RefusesFirst.treatAll_recording :
    generator.recording.treatAll tree (before ++ [line]) =
      ((generator.recording.treatAll tree before).1 ++ [.refused launcher cause], last) := by
  rw [treatAll_recording_append, treatAll_recording_cons, first.refused]
  rfl

/-- The stopping run ends at the line, whatever comes after it. -/
theorem RefusesFirst.treatAll_stopping (after : List Bytes) :
    generator.stopping.treatAll tree (before ++ line :: after) =
      ((generator.recording.treatAll tree before).1 ++ [.fatal launcher cause], last) := by
  have earlier := treatAll_stopping_of_unrefused first.unrefused
  rw [treatAll_append, earlier, stops_recording, if_neg Bool.false_ne_true, treatAll_cons,
    treat_stopping, first.refused]
  rfl

end

/-! ### Whole runs -/

/-- This line is the one of the first failure: a recording run over the lines before it has no
failure, and one that includes the line has this one alone. -/
structure FailsAt (generator : Generator) (size : Nat) (label : Path) (tree : Tree)
    (before : List Bytes) (line : Bytes) (failure : FailedWrite) : Prop where
  unfailed : ∃ report, (generator.recording.runOver (.memory before.flatten none) size label
    tree).result = .ok report ∧ report.failed = []
  upTo : ∃ report, (generator.recording.runOver (.memory (before ++ [line]).flatten none) size
    label tree).result = .ok report ∧ report.failed = [failure]

/-- How a stopping run over some data ends, told from the report of the recording run. -/
structure Agrees (generator : Generator) (data : Bytes) (size : Nat) (label : Path) (tree : Tree)
    (report : Report) : Prop where
  completes : (∃ own, (generator.stopping.runOver (.memory data none) size label tree).result =
    .ok own) ↔ report.hasFailures = false
  same : report.hasFailures = false →
    generator.stopping.runOver (.memory data none) size label tree =
      generator.recording.runOver (.memory data none) size label tree
  /-- The first recorded failure is the result, and the tree is that of the recording run over
  the lines up to this failure. -/
  fails : ∀ failure ∈ report.failed.head?,
    (generator.stopping.runOver (.memory data none) size label tree).result =
        .error (.outputWrite failure.path failure.cause) ∧
      ∃ before line after, Line.ofData data = before ++ line :: after ∧
        generator.FailsAt size label tree before line failure ∧
        (generator.stopping.runOver (.memory data none) size label tree).tree =
          (generator.recording.runOver (.memory (before ++ [line]).flatten none) size label
            tree).tree

/-- A recording run always comes to a report. -/
theorem result_recording (generator : Generator) (data : Bytes) {size : Nat} (positive : 0 < size)
    (label : Path) (tree : Tree) :
    (generator.recording.runOver (.memory data none) size label tree).result =
      .ok (Report.ofFates generator.recording
        (generator.recording.treatAll tree (Line.ofData data)).1) := by
  rw [runOver, run_memory_none generator.recording positive]
  exact result_of_going (stops_recording generator tree _) label

/-- What is told of some fates does not depend on the mode. -/
theorem ofFates_stopping (generator : Generator) (number : Nat) (seen : List Name)
    (fates : List Fate) :
    Event.ofFates generator.stopping number seen fates =
      Event.ofFates generator.recording number seen fates := by
  induction fates generalizing number seen with
  | nil => rfl
  | cons fate rest ih =>
      rw [Event.ofFates, Event.ofFates]
      simp only [ih]
      rfl

theorem outcome_stopping (generator : Generator) (run : Run) (label : Path) :
    run.outcome generator.stopping label = run.outcome generator.recording label := by
  have ledger : run.ledger generator.stopping = run.ledger generator.recording := by
    rw [Run.ledger_eq_ofFates, Run.ledger_eq_ofFates, Ledger.ofFates, ofFates_stopping]
    rfl
  have result : run.result generator.stopping label = run.result generator.recording label := by
    rw [Run.result, Run.result, ledger]
    rfl
  rw [Run.outcome, Run.outcome, Run.events, Run.events, result, ledger]

/-- The failures of a report are those that the fates tell. -/
theorem failed_of_refusals (generator : Generator) {fates : List Fate}
    {refusals : List (Launcher × IoError)}
    (recorded : fates.filterMap Fate.refused? = refusals) :
    (Report.ofFates generator fates).failed =
      refusals.map fun (launcher, cause) => ⟨generator.pathOf launcher, cause⟩ := by
  rw [Report.ofFates, recorded]

/-- Without a recorded failure, the stopping run is the recording run. -/
theorem runOver_stopping_of_unrefused {data : Bytes} {tree : Tree}
    (unrefused : (generator.recording.treatAll tree (Line.ofData data)).1.filterMap
      Fate.refused? = []) {size : Nat} (positive : 0 < size) (label : Path) :
    generator.stopping.runOver (.memory data none) size label tree =
      generator.recording.runOver (.memory data none) size label tree := by
  rw [runOver, run_memory_none generator.stopping positive,
    treatAll_stopping_of_unrefused unrefused, runOver, run_memory_none generator.recording positive,
    outcome_stopping]

section

variable {tree last : Tree} {data : Bytes} {before after : List Bytes} {line : Bytes}
  {launcher : Launcher} {cause : IoError} {size : Nat}
  (first : generator.RefusesFirst tree before line launcher cause last)
  (lines : Line.ofData data = before ++ line :: after) (positive : 0 < size) (label : Path)

include first lines positive

/-- The stopping run fails at the first line that the recording run refuses. -/
theorem RefusesFirst.runOver_stopping :
    (generator.stopping.runOver (.memory data none) size label tree).result =
        .error (.outputWrite (generator.pathOf launcher) cause) ∧
      (generator.stopping.runOver (.memory data none) size label tree).tree = last := by
  have harmless := stops_recording generator tree before
  rw [runOver, run_memory_none generator.stopping positive, lines, first.treatAll_stopping]
  exact ⟨result_of_fatal harmless launcher cause last none label, rfl⟩

/-- The lines before and the line itself are lines of data of their own. -/
theorem RefusesFirst.runOver_recording :
    generator.FailsAt size label tree before line ⟨generator.pathOf launcher, cause⟩ ∧
      (generator.recording.runOver (.memory (before ++ [line]).flatten none) size label tree).tree =
        last := by
  have earlier : Line.ofData before.flatten = before := Line.ofData_flatten_of_append lines
  have upTo : Line.ofData (before ++ [line]).flatten = before ++ [line] := by
    rw [List.append_cons] at lines
    exact Line.ofData_flatten_of_append lines
  constructor
  · constructor
    · refine ⟨_, result_recording generator before.flatten positive label tree, ?_⟩
      rw [earlier]
      exact failed_of_refusals generator.recording first.unrefused
    · refine ⟨_, result_recording generator _ positive label tree, ?_⟩
      have recorded : ((generator.recording.treatAll tree before).1 ++
          [Fate.refused launcher cause]).filterMap Fate.refused? = [(launcher, cause)] := by
        rw [List.filterMap_append, first.unrefused]
        rfl
      rw [upTo, first.treatAll_recording]
      exact failed_of_refusals generator.recording recorded
  · rw [runOver, run_memory_none generator.recording positive, upTo, first.treatAll_recording]
    rfl

end

/-- Stopping at the first failure and recording failures agree.  Without a failure both runs are
the same; otherwise the stopping run fails as the recording run records first, and leaves what the
recording run leaves up to the line of this failure. -/
theorem stopping_agrees_with_recording (generator : Generator) (data : Bytes) {size : Nat}
    (positive : 0 < size) (label : Path) (tree : Tree) :
    ∃ report, (generator.recording.runOver (.memory data none) size label tree).result =
        .ok report ∧ generator.Agrees data size label tree report := by
  have recorded := result_recording generator data positive label tree
  refine ⟨_, recorded, ?_⟩
  cases refusals : (generator.recording.treatAll tree (Line.ofData data)).1.filterMap
      Fate.refused? with
  | nil =>
      have same := runOver_stopping_of_unrefused refusals positive label
      have failed := failed_of_refusals generator.recording refusals
      constructor
      · rw [same, recorded, Report.hasFailures, failed]
        exact ⟨fun _ => rfl, fun _ => ⟨_, rfl⟩⟩
      · intro _
        exact same
      · intro failure mem
        rw [failed] at mem
        cases mem
  | cons refusal more =>
      obtain ⟨launcher, cause⟩ := refusal
      obtain ⟨before, line, after, last, lines, first⟩ := exists_refusesFirst refusals
      obtain ⟨result, left⟩ := first.runOver_stopping lines positive label
      obtain ⟨failsAt, upTo⟩ := first.runOver_recording lines positive label
      have failed := failed_of_refusals generator.recording refusals
      constructor
      · rw [result, Report.hasFailures, failed]
        constructor
        · rintro ⟨own, completed⟩
          cases completed
        · intro unfailed
          cases unfailed
      · intro unfailed
        rw [Report.hasFailures, failed] at unfailed
        cases unfailed
      · intro failure mem
        rw [failed] at mem
        obtain rfl := Option.some.inj mem
        exact ⟨result, before, line, after, lines, failsAt, left.trans upTo.symm⟩

/-- Of two launchers the second one meets a directory of its name, and a third line follows. -/
theorem stopping_agrees_where_name_is_taken : 0 < 8192 ∧
    ∃ report, (standard.recording.runOver (.memory (Utf8.ofString
        "-ac_name=BEER\n-ac_name=DEX &\n-ac_name=LATE\n") none) 8192 [] taken).result =
          .ok report ∧
      standard.Agrees (Utf8.ofString "-ac_name=BEER\n-ac_name=DEX &\n-ac_name=LATE\n") 8192 []
        taken report :=
  ⟨by decide, stopping_agrees_with_recording standard _ (by decide) [] taken⟩

end Generator

end ChainLaunchers
