/-
Module: ChainLaunchers.Proofs.Run.Ledger
Purpose: What the ledger of a run comes to: after every line it says what can be read off the
  fates of all lines so far.
Trusted boundary: none
Main exports:
  countRepeated, Report.ofFates, Event.ofFates, Event.mem_ofFates, Event.ofFates_append,
  Ledger.ofFates, Ledger.enter_ofFates, Ledger.foldl_enter, Run.ledger_eq_ofFates
-/
import ChainLaunchers.Run.Basic
import Mathlib.Data.List.Induction

namespace ChainLaunchers

/-! ### Reading off fates -/

/-- How many members of a list occur earlier in it, or among those seen before. -/
def countRepeated (seen : List Name) : List Name → Nat
  | [] => 0
  | name :: rest => (if name ∈ seen then 1 else 0) + countRepeated (name :: seen) rest

/-- The report of a run whose lines had these fates. -/
def Report.ofFates (generator : Generator) (fates : List Fate) : Report where
  linesRead := fates.length
  linesMatched := (fates.filterMap Fate.launcher?).length
  written := (fates.filterMap Fate.done?).map generator.pathOf
  overwritten := countRepeated [] ((fates.filterMap Fate.launcher?).map Launcher.fileName)
  failed := (fates.filterMap Fate.refused?).map fun (launcher, cause) =>
    ⟨generator.pathOf launcher, cause⟩
  dryRun := generator.dryRun

/-- What a fate itself tells. -/
def Fate.events (generator : Generator) : Fate → List Event
  | .planned launcher => [.planned (generator.pathOf launcher) launcher.content]
  | .written launcher => [.wrote (generator.pathOf launcher)]
  | .refused launcher cause => [.refused (generator.pathOf launcher) cause]
  | .skipped | .fatal _ _ => []

/-- What lines tell that have these fates, from the line of the given number on and after
lines with the given file names. -/
def Event.ofFates (generator : Generator) (number : Nat) (seen : List Name) :
    List Fate → List Event
  | [] => []
  | fate :: rest =>
    match fate.launcher? with
    | none => .skipped number :: Event.ofFates generator (number + 1) seen rest
    | some launcher =>
      (if launcher.fileName ∈ seen then [.repeated number launcher.fileName] else [])
        ++ fate.events generator
        ++ Event.ofFates generator (number + 1) (launcher.fileName :: seen) rest

/-- The file names of fates, the latest one first. -/
def Fate.names (fates : List Fate) : List Name :=
  ((fates.filterMap Fate.launcher?).map Launcher.fileName).reverse

/-- The ledger of a run whose lines so far had these fates. -/
def Ledger.ofFates (generator : Generator) (fates : List Fate) : Ledger where
  report := Report.ofFates generator fates
  seen := Fate.names fates
  events := Event.ofFates generator 1 [] fates

/-! ### One more line -/

/-- One more name is repeated once more if it was seen before. -/
theorem countRepeated_concat (seen names : List Name) (name : Name) :
    countRepeated seen (names ++ [name]) =
      countRepeated seen names + if name ∈ names ∨ name ∈ seen then 1 else 0 := by
  induction names generalizing seen with
  | nil => simp [countRepeated]
  | cons other rest ih =>
      have same : (name ∈ rest ∨ name ∈ other :: seen) ↔ (name ∈ other :: rest ∨ name ∈ seen) := by
        rw [List.mem_cons, List.mem_cons, or_assoc, or_left_comm]
      simp only [List.cons_append, countRepeated, ih, same, Nat.add_assoc]

theorem Fate.names_concat (fates : List Fate) (fate : Fate) :
    Fate.names (fates ++ [fate]) =
      (fate.launcher?.map Launcher.fileName).toList ++ Fate.names fates := by
  cases named : fate.launcher? <;> simp [Fate.names, named]

/-- Everything that lines tell is of one of three sorts. -/
theorem Event.mem_ofFates {generator : Generator} {number : Nat} {seen : List Name}
    {fates : List Fate} {event : Event} (mem : event ∈ Event.ofFates generator number seen fates) :
    (∃ line, event = .skipped line) ∨ (∃ line fileName, event = .repeated line fileName) ∨
      ∃ fate ∈ fates, event ∈ fate.events generator := by
  induction fates generalizing number seen with
  | nil => cases mem
  | cons fate rest ih =>
      have later {number : Nat} {seen : List Name}
          (mem : event ∈ Event.ofFates generator number seen rest) :
          (∃ line, event = .skipped line) ∨ (∃ line fileName, event = .repeated line fileName) ∨
            ∃ other ∈ fate :: rest, event ∈ other.events generator := by
        rcases ih mem with skipped | repeated | ⟨other, present, own⟩
        · exact Or.inl skipped
        · exact Or.inr (Or.inl repeated)
        · exact Or.inr (Or.inr ⟨other, List.mem_cons_of_mem fate present, own⟩)
      unfold Event.ofFates at mem
      split at mem
      · rcases List.mem_cons.1 mem with skipped | mem
        · exact Or.inl ⟨number, skipped⟩
        · exact later mem
      · rename_i launcher named
        rcases List.mem_append.1 mem with here | mem
        · rcases List.mem_append.1 here with repeated | own
          · split at repeated
            · exact Or.inr (Or.inl ⟨number, _, List.mem_singleton.1 repeated⟩)
            · cases repeated
          · exact Or.inr (Or.inr ⟨fate, List.mem_cons_self, own⟩)
        · exact later mem

/-- Lines tell what they tell after the lines before them. -/
theorem Event.ofFates_append (generator : Generator) (number : Nat) (seen : List Name)
    (first second : List Fate) :
    Event.ofFates generator number seen (first ++ second) =
      Event.ofFates generator number seen first ++
        Event.ofFates generator (number + first.length) (Fate.names first ++ seen) second := by
  induction first generalizing number seen with
  | nil => rfl
  | cons fate rest ih =>
      have place : number + 1 + rest.length = number + (fate :: rest).length := by
        rw [List.length_cons]
        omega
      cases named : fate.launcher? with
      | none =>
          have names : Fate.names (fate :: rest) = Fate.names rest := by
            simp [Fate.names, named]
          simp only [List.cons_append, Event.ofFates, named, ih, place, names]
      | some launcher =>
          have names : Fate.names (fate :: rest) ++ seen =
              Fate.names rest ++ launcher.fileName :: seen := by
            simp [Fate.names, named]
          simp only [List.cons_append, Event.ofFates, named, ih, place, names, List.append_assoc]

namespace Ledger

variable {generator : Generator}

/-- What a line with a chain name counts for, whether or not its file name is new. -/
theorem countMatched_eq (ledger : Ledger) (fileName : Name) :
    ledger.countMatched fileName =
      { report :=
          { ledger.report with
            linesMatched := ledger.report.linesMatched + 1
            overwritten :=
              ledger.report.overwritten + if fileName ∈ ledger.seen then 1 else 0 }
        seen := fileName :: ledger.seen
        events :=
          ledger.events ++
            if fileName ∈ ledger.seen then [.repeated ledger.report.linesRead fileName]
            else [] } := by
  unfold countMatched
  split
  · rename_i old
    simp [tell, List.contains_iff_mem.1 old]
  · rename_i new
    simp [mt List.contains_iff_mem.2 new]

/-- Entering the fate of one more line brings the ledger up to date. -/
theorem enter_ofFates (generator : Generator) (fates : List Fate) (fate : Fate) :
    (ofFates generator fates).enter generator fate = ofFates generator (fates ++ [fate]) := by
  have told := Event.ofFates_append generator 1 [] fates [fate]
  rw [List.append_nil, Nat.add_comm 1] at told
  have repeats (name : Name) :
      countRepeated [] ((fates.filterMap Fate.launcher?).map Launcher.fileName ++ [name]) =
        countRepeated [] ((fates.filterMap Fate.launcher?).map Launcher.fileName) +
          if name ∈ Fate.names fates then 1 else 0 := by
    have known : (name ∈ (fates.filterMap Fate.launcher?).map Launcher.fileName ∨ name ∈ []) ↔
        name ∈ Fate.names fates := by
      rw [Fate.names, List.mem_reverse, or_iff_left List.not_mem_nil]
    simp only [countRepeated_concat, known]
  cases fate with
  | skipped =>
      simp [enter, countRead, record, tell, ofFates, Report.ofFates, Fate.names_concat, told,
        Event.ofFates, Fate.launcher?, Fate.done?, Fate.refused?, List.filterMap_cons]
  | planned launcher | written launcher | refused launcher cause | fatal launcher cause =>
      simp [enter, countRead, countMatched_eq, record, tell, recordDone, recordFailed, ofFates,
        Report.ofFates, repeats, Fate.names_concat, told, Event.ofFates, Fate.events,
        Fate.launcher?, Fate.done?, Fate.refused?]

/-- The ledger of a run over any lines says what can be read off their fates. -/
theorem foldl_enter (generator : Generator) (fates : List Fate) :
    fates.foldl (enter generator) (opened generator) = ofFates generator fates := by
  induction fates using List.reverseRecOn with
  | nil => rfl
  | append_singleton fates fate ih =>
      rw [List.foldl_append, ih]
      exact enter_ofFates generator fates fate

end Ledger

namespace Run

theorem ledger_eq_ofFates (run : Run) (generator : Generator) :
    run.ledger generator = Ledger.ofFates generator run.fates :=
  Ledger.foldl_enter generator run.fates

end Run

end ChainLaunchers
