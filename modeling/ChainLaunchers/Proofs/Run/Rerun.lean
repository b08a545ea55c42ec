/-
Module: ChainLaunchers.Proofs.Run.Rerun
Purpose: A run that is repeated on the tree it has left changes nothing and ends the same way.
Trusted boundary: none
Main exports:
  Fate.Alike, Report.SameButCauses, EndsAlike, Generator.treatAll_alike,
  Generator.treatAll_again, Generator.rerun_is_idempotent
-/
import ChainLaunchers.Proofs.Run.Abort
import ChainLaunchers.Proofs.Run.Deposits

namespace ChainLaunchers

/-! ### Fates that are alike -/

/-- Two fates that differ at most in the cause for which a launcher could not be written. -/
inductive Fate.Alike : Fate → Fate → Prop where
  | same (fate : Fate) : Alike fate fate
  | refused (launcher : Launcher) (cause cause' : IoError) :
      Alike (.refused launcher cause) (.refused launcher cause')
  | fatal (launcher : Launcher) (cause cause' : IoError) :
      Alike (.fatal launcher cause) (.fatal launcher cause')

/-- Something that can be told of a fate without looking at causes. -/
def Fate.IgnoresCauses {β : Type} (select : Fate → β) : Prop :=
  ∀ launcher cause cause', select (.refused launcher cause) = select (.refused launcher cause') ∧
    select (.fatal launcher cause) = select (.fatal launcher cause')

theorem Fate.Alike.select_eq {β : Type} {select : Fate → β} (ignores : IgnoresCauses select)
    {first second : Fate} (alike : Alike first second) : select first = select second := by
  cases alike with
  | same => rfl
  | refused launcher cause cause' => exact (ignores launcher cause cause').1
  | fatal launcher cause cause' => exact (ignores launcher cause cause').2

theorem filterMap_eq_of_alike {β : Type} {select : Fate → Option β}
    (ignores : Fate.IgnoresCauses select) {first second : List Fate}
    (alike : List.Forall₂ Fate.Alike first second) :
    first.filterMap select = second.filterMap select := by
  induction alike with
  | nil => rfl
  | cons here _ ih => rw [List.filterMap_cons, List.filterMap_cons, here.select_eq ignores, ih]

theorem Fate.ignoresCauses_launcher? : IgnoresCauses launcher? := fun _ _ _ => ⟨rfl, rfl⟩

theorem Fate.ignoresCauses_done? : IgnoresCauses done? := fun _ _ _ => ⟨rfl, rfl⟩

theorem Fate.ignoresCauses_attempted? : IgnoresCauses attempted? := fun _ _ _ => ⟨rfl, rfl⟩

theorem Fate.ignoresCauses_refused? :
    IgnoresCauses fun fate => fate.refused?.map Prod.fst := fun _ _ _ => ⟨rfl, rfl⟩

theorem Fate.ignoresCauses_fatal? :
    IgnoresCauses fun fate => fate.fatal?.map Prod.fst := fun _ _ _ => ⟨rfl, rfl⟩

/-! ### Ends that are alike -/

/-- Two reports that differ at most in the causes of the failures. -/
structure Report.SameButCauses (first second : Report) : Prop where
  linesRead : first.linesRead = second.linesRead
  linesMatched : first.linesMatched = second.linesMatched
  written : first.written = second.written
  overwritten : first.overwritten = second.overwritten
  failed : first.failed.map FailedWrite.path = second.failed.map FailedWrite.path
  dryRun : first.dryRun = second.dryRun

/-- Two ends of runs: both times a report, or both times the same path that could not be
written. -/
inductive EndsAlike : Except Failure Report → Except Failure Report → Prop where
  | completed {first second : Report} (same : first.SameButCauses second) :
      EndsAlike (.ok first) (.ok second)
  | failed (path : Path) (cause cause' : IoError) :
      EndsAlike (.error (.outputWrite path cause)) (.error (.outputWrite path cause'))

namespace Generator

variable {generator : Generator}

theorem sameButCauses_of_alike (generator : Generator) {first second : List Fate}
    (alike : List.Forall₂ Fate.Alike first second) :
    (Report.ofFates generator first).SameButCauses (Report.ofFates generator second) := by
  have launchers := filterMap_eq_of_alike Fate.ignoresCauses_launcher? alike
  have refused : (first.filterMap Fate.refused?).map Prod.fst =
      (second.filterMap Fate.refused?).map Prod.fst := by
    rw [List.map_filterMap, List.map_filterMap]
    exact filterMap_eq_of_alike Fate.ignoresCauses_refused? alike
  constructor
  · exact alike.length_eq
  · rw [Report.ofFates, launchers, Report.ofFates]
  · have done := filterMap_eq_of_alike Fate.ignoresCauses_done? alike
    rw [Report.ofFates, done, Report.ofFates]
  · rw [Report.ofFates, launchers, Report.ofFates]
  · rw [failed_ofFates, failed_ofFates, refused]
  · rfl

/-- Of alike fates either both hold a fatal one, for the same launcher, or none does. -/
theorem findSome?_fatal_of_alike {first second : List Fate}
    (alike : List.Forall₂ Fate.Alike first second) :
    (first.findSome? Fate.fatal?).map Prod.fst = (second.findSome? Fate.fatal?).map Prod.fst := by
  induction alike with
  | nil => rfl
  | @cons fate fate' _ _ here _ ih =>
      have same := here.select_eq Fate.ignoresCauses_fatal?
      rw [List.findSome?_cons, List.findSome?_cons]
      cases own : fate.fatal? with
      | none =>
          rw [own, Option.map_none, eq_comm, Option.map_eq_none_iff] at same
          rw [same]
          exact ih
      | some found =>
          rw [own, Option.map_some, eq_comm, Option.map_eq_some_iff] at same
          obtain ⟨found', there, chains⟩ := same
          rw [there, Option.map_some, Option.map_some, chains]

/-- Runs whose sources do not fail end alike if their fates are alike. -/
theorem endsAlike_of_alike {first second : List Fate}
    (alike : List.Forall₂ Fate.Alike first second) (last last' : Tree) (label label' : Path) :
    EndsAlike ((Run.mk first last none).result generator label)
      ((Run.mk second last' none).result generator label') := by
  have fatal := findSome?_fatal_of_alike alike
  rw [Run.result, Run.result, Run.fatal?, Run.fatal?, Run.ledger_eq_ofFates,
    Run.ledger_eq_ofFates]
  cases here : first.findSome? Fate.fatal? with
  | none =>
      rw [here, Option.map_none, eq_comm, Option.map_eq_none_iff] at fatal
      rw [fatal]
      exact EndsAlike.completed (sameButCauses_of_alike generator alike)
  | some found =>
      obtain ⟨launcher, cause⟩ := found
      rw [here, Option.map_some, eq_comm, Option.map_eq_some_iff] at fatal
      obtain ⟨⟨_, cause'⟩, there, rfl⟩ := fatal
      rw [there]
      exact EndsAlike.failed _ cause cause'

/-! ### Treating lines in two trees -/

/-- What can be written to the output directory is the same in both trees. -/
def SameLandings (generator : Generator) (tree tree' : Tree) : Prop :=
  ∀ name, generator.Lands tree name ↔ generator.Lands tree' name

/-- One line has alike fates. -/
theorem treat_alike (accepted : generator.IsAccepted) {tree tree' : Tree}
    (landings : generator.SameLandings tree tree') (line : Bytes) :
    Fate.Alike (generator.treat tree line).1 (generator.treat tree' line).1 := by
  cases found : generator.launcher? line with
  | none =>
      rw [treat_skipped found, treat_skipped found]
      exact Fate.Alike.same _
  | some launcher =>
      cases flag : generator.dryRun with
      | true =>
          rw [treat_planned flag found, treat_planned flag found]
          exact Fate.Alike.same _
      | false =>
          by_cases lands : generator.Lands tree launcher.fileName
          · have lands' := (landings launcher.fileName).1 lands
            rw [treat_of_lands accepted flag found lands, treat_of_lands accepted flag found lands']
            exact Fate.Alike.same _
          · have blocked := mt (landings launcher.fileName).2 lands
            obtain ⟨cause, treated⟩ := treat_of_not_lands accepted flag found lands
            obtain ⟨cause', treated'⟩ := treat_of_not_lands accepted flag found blocked
            rw [treated, treated']
            cases generator.keepGoing with
            | true => exact Fate.Alike.refused launcher cause cause'
            | false => exact Fate.Alike.fatal launcher cause cause'

theorem sameLandings_treat (accepted : generator.IsAccepted) {tree tree' : Tree}
    (landings : generator.SameLandings tree tree') (line : Bytes) :
    generator.SameLandings (generator.treat tree line).2 (generator.treat tree' line).2 := by
  intro name
  rw [lands_treat accepted, lands_treat accepted]
  exact landings name

/-- Lines have alike fates, and end at the same line. -/
theorem treatAll_alike (accepted : generator.IsAccepted) {tree tree' : Tree}
    (landings : generator.SameLandings tree tree') (lines : List Bytes) :
    List.Forall₂ Fate.Alike (generator.treatAll tree lines).1
      (generator.treatAll tree' lines).1 := by
  induction lines generalizing tree tree' with
  | nil => exact List.Forall₂.nil
  | cons line rest ih =>
      have here := treat_alike accepted landings line
      have ends : (generator.treat tree line).1.fatal?.isSome =
          (generator.treat tree' line).1.fatal?.isSome := by
        have same := congrArg Option.isSome (here.select_eq Fate.ignoresCauses_fatal?)
        rwa [Option.isSome_map, Option.isSome_map] at same
      rw [treatAll_cons, treatAll_cons, ← ends]
      split
      · exact List.Forall₂.cons here List.Forall₂.nil
      · exact List.Forall₂.cons here (ih (sameLandings_treat accepted landings line))

/-! ### Treating lines again -/

/-- What a run has left lets the same be written as the tree before it. -/
theorem sameLandings_treatAll (accepted : generator.IsAccepted) (tree : Tree)
    (lines : List Bytes) :
    generator.SameLandings tree (generator.treatAll tree lines).2 := by
  intro name
  rw [treatAll_eq_depositAll accepted, Lands, Lands, landing?_depositAll]

/-- Lines that are treated again, where they have left off, leave the tree as it is. -/
theorem treatAll_again (accepted : generator.IsAccepted) (tree : Tree) (lines : List Bytes) :
    (generator.treatAll (generator.treatAll tree lines).2 lines).2 =
      (generator.treatAll tree lines).2 := by
  have alike := treatAll_alike accepted (sameLandings_treatAll accepted tree lines) lines
  have attempted := filterMap_eq_of_alike Fate.ignoresCauses_attempted? alike
  -- Both times the same launchers are deposited, the second time on top of the first.
  calc (generator.treatAll (generator.treatAll tree lines).2 lines).2
      = generator.depositAll (generator.treatAll tree lines).2
          ((generator.treatAll tree lines).1.filterMap Fate.attempted?) := by
        rw [treatAll_eq_depositAll accepted _ lines, ← attempted]
    _ = (generator.treatAll tree lines).2 := by
        rw [treatAll_eq_depositAll accepted tree lines, depositAll_again]

/-- Running twice is running once.  A second run of an accepted generator over the same data, on
the tree that the first one has left, changes nothing and ends the same way, whatever the flags:
with the same report but for the causes of failures, or at the same path that could not be
written. -/
theorem rerun_is_idempotent (accepted : generator.IsAccepted) (data : Bytes) {size : Nat}
    (positive : 0 < size) (label : Path) (before : Tree) :
    (generator.runOver (.memory data none) size label
          (generator.runOver (.memory data none) size label before).tree).tree =
        (generator.runOver (.memory data none) size label before).tree ∧
      EndsAlike (generator.runOver (.memory data none) size label before).result
        (generator.runOver (.memory data none) size label
          (generator.runOver (.memory data none) size label before).tree).result := by
  have first := run_memory_none generator positive data before
  have left : (generator.runOver (.memory data none) size label before).tree =
      (generator.treatAll before (Line.ofData data)).2 := by
    rw [runOver, first]
    rfl
  have second := run_memory_none generator positive data
    (generator.treatAll before (Line.ofData data)).2
  rw [left, runOver, runOver, first, second]
  constructor
  · exact treatAll_again accepted before _
  · have landings := sameLandings_treatAll accepted before (Line.ofData data)
    exact endsAlike_of_alike (treatAll_alike accepted landings _) _ _ label label

/-- One launcher is written, the next one ends the run, and so both times. -/
theorem rerun_is_idempotent_where_name_is_taken :
    (standard.runOver (.memory (Utf8.ofString "-ac_name=BEER\n-ac_name=DEX &\n") none) 8192 []
          (standard.runOver (.memory (Utf8.ofString "-ac_name=BEER\n-ac_name=DEX &\n") none) 8192
            [] taken).tree).tree =
        (standard.runOver (.memory (Utf8.ofString "-ac_name=BEER\n-ac_name=DEX &\n") none) 8192 []
          taken).tree ∧
      EndsAlike
        (standard.runOver (.memory (Utf8.ofString "-ac_name=BEER\n-ac_name=DEX &\n") none) 8192 []
          taken).result
        (standard.runOver (.memory (Utf8.ofString "-ac_name=BEER\n-ac_name=DEX &\n") none) 8192 []
          (standard.runOver (.memory (Utf8.ofString "-ac_name=BEER\n-ac_name=DEX &\n") none) 8192
            [] taken).tree).result :=
  rerun_is_idempotent (isAccepted_standard false false) _ (by decide) [] taken

end Generator

end ChainLaunchers
