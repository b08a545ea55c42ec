/-
Module: ChainLaunchers.Proofs.Event
Purpose: The entries of a log: how those of each kind are worded, and that a log can be sorted by
  the levels and the words of its entries.
Trusted boundary: none
Main exports:
  Event.entry, Event.Kind, Event.Kind.Covers, Event.Kind.Lists, Event.Kind.Picks,
  Event.Kind.Picks.lists
-/
import ChainLaunchers.Event

namespace ChainLaunchers

namespace Event

/-- An event as it stands in a log: its level and its wording. -/
def entry (event : Event) : Level × String := (event.level, event.message)

/-- A kind of entries: their level, and the words that they begin and end with. -/
structure Kind where
  level : Level
  opening : String
  closing : String := ""

namespace Kind

/-! ### The kinds of entries of a run -/

/-- A file was written. -/
def wrote : Kind := { level := .info, opening := "Wrote " }

/-- A dry run would write a file. -/
def planned : Kind := { level := .info, opening := "Would write " }

/-- A file could not be written, and the run goes on. -/
def refused : Kind := { level := .error, opening := "Failed to write " }

/-- A line carries no chain name. -/
def skipped : Kind :=
  { level := .debug, opening := "Line ", closing := ": no chain name, skipped" }

/-- A line has the file name of an earlier one. -/
def repeated : Kind :=
  { level := .debug, opening := "Line ", closing := " replaces an earlier entry" }

/-- The run is complete. -/
def summary : Kind := { level := .info, opening := "Processed " }

/-- All kinds of entries of a run over a command list that is open. -/
def all : List Kind := [wrote, planned, refused, skipped, repeated, summary]

/-! ### Sorting a log -/

/-- An event is of a kind by its level and by the words that it begins and ends with. -/
def Covers (kind : Kind) (event : Event) : Prop :=
  event.level = kind.level ∧ kind.opening.toList <+: event.message.toList ∧
    kind.closing.toList <:+ event.message.toList

instance (kind : Kind) (event : Event) : Decidable (kind.Covers event) :=
  inferInstanceAs (Decidable (_ ∧ _ ∧ _))

/-- The events of a kind in a log are those of some members, one for each in their order, and
between the words of the kind stand the details of the member. -/
structure Lists {α : Type} (kind : Kind) (log : List Event) (members : List α)
    (event : α → Event) (details : α → String) : Prop where
  events : log.filter (kind.Covers ·) = members.map event
  entries : (log.filter (kind.Covers ·)).map entry =
    members.map fun member => (kind.level, kind.opening ++ details member ++ kind.closing)

/-- The events of a kind are those that `pick` finds a member in, and they are worded as the kind
is. -/
structure Picks {α : Type} (kind : Kind) (pick : Event → Option α) (event : α → Event)
    (details : α → String) : Prop where
  covers : ∀ found, kind.Covers found ↔ (pick found).isSome = true
  made : ∀ found member, pick found = some member → found = event member
  worded : ∀ member,
    (event member).entry = (kind.level, kind.opening ++ details member ++ kind.closing)

section

variable {α β : Type} {kind : Kind} {pick : Event → Option α} {event : α → Event}
  {details : α → String} (picks : kind.Picks pick event details) {log : List Event}

include picks

/-- Whatever the log, its events of a kind are those of the members that are found in it. -/
theorem Picks.lists {members : List α} (found : log.filterMap pick = members) :
    kind.Lists log members event details := by
  subst found
  have events : log.filter (kind.Covers ·) = (log.filterMap pick).map event := by
    induction log with
    | nil => rfl
    | cons found rest ih =>
        have covers := picks.covers found
        cases picked : pick found with
        | none => simpa [List.filter_cons, covers, picked] using ih
        | some member =>
            obtain rfl := picks.made found member picked
            simpa [List.filter_cons, covers, picked] using ih
  refine ⟨events, ?_⟩
  rw [events, List.map_map]
  exact List.map_congr_left fun member _ => picks.worded member

/-- The same, where the members that are found are parts of others. -/
theorem Picks.lists_map (f : β → α) {members : List β}
    (found : log.filterMap pick = members.map f) :
    kind.Lists log members (fun member => event (f member)) fun member => details (f member) := by
  obtain ⟨events, entries⟩ := picks.lists found
  rw [List.map_map] at events entries
  exact ⟨events, entries⟩

theorem Picks.exists_covers (listed : kind ∈ all) {found : Event}
    (picked : (pick found).isSome = true) : ∃ kind ∈ all, kind.Covers found :=
  ⟨kind, listed, (picks.covers found).2 picked⟩

end

end Kind

/-! ### What the entries of each kind carry -/

/-- The path of a file that was written. -/
def wrote? : Event → Option Path
  | .wrote path => some path
  | _ => none

/-- The path of a file that a dry run would write, and its content. -/
def planned? : Event → Option (Path × Bytes)
  | .planned path content => some (path, content)
  | _ => none

/-- A file that could not be written although the run went on, and the cause. -/
def refused? : Event → Option (Path × IoError)
  | .refused path cause => some (path, cause)
  | _ => none

/-- The number of a line without a chain name. -/
def skipped? : Event → Option Nat
  | .skipped line => some line
  | _ => none

/-- The number of a line with the file name of an earlier one, and the name. -/
def repeated? : Event → Option (Nat × Name)
  | .repeated line fileName => some (line, fileName)
  | _ => none

/-- The counts of the lines read and matched and of the files written and failed. -/
def summary? : Event → Option (Nat × Nat × Nat × Nat)
  | .finished read matched written failed => some (read, matched, written, failed)
  | _ => none

namespace Kind

theorem picks_wrote : wrote.Picks wrote? Event.wrote Utf8.toStringLossy where
  covers found := by
    unfold Covers Event.level message
    cases found <;> simp [wrote, wrote?]
  made found path picked := by
    cases found <;> cases picked
    rfl
  worded path := by
    simp [entry, Event.level, message.eq_def, wrote]

theorem picks_planned :
    planned.Picks planned? (fun member => .planned member.1 member.2)
      fun member => Utf8.toStringLossy member.1 ++ ": " ++ Utf8.toStringLossy member.2 where
  covers found := by
    unfold Covers Event.level message
    cases found <;> simp [planned, planned?]
  made found member picked := by
    cases found <;> cases picked
    rfl
  worded member := by
    simp [entry, Event.level, message.eq_def, planned, String.append_assoc]

theorem picks_refused :
    refused.Picks refused? (fun member => .refused member.1 member.2)
      fun member => Utf8.toStringLossy member.1 ++ ": " ++ member.2.message where
  covers found := by
    unfold Covers Event.level message
    cases found <;> simp [refused, refused?]
  made found member picked := by
    cases found <;> cases picked
    rfl
  worded member := by
    simp [entry, Event.level, message.eq_def, refused, String.append_assoc]

theorem picks_skipped : skipped.Picks skipped? Event.skipped fun line => toString line where
  covers found := by
    unfold Covers Event.level message
    cases found <;> simp [skipped, skipped?, ← List.reverse_prefix]
  made found line picked := by
    cases found <;> cases picked
    rfl
  worded line := by
    simp [entry, Event.level, message.eq_def, skipped]

theorem picks_repeated :
    repeated.Picks repeated? (fun member => .repeated member.1 member.2)
      fun member => toString member.1 ++ ": " ++ Utf8.toStringLossy member.2 where
  covers found := by
    unfold Covers Event.level message
    cases found <;> simp [repeated, repeated?, ← List.reverse_prefix]
  made found member picked := by
    cases found <;> cases picked
    rfl
  worded member := by
    simp [entry, Event.level, message.eq_def, repeated, String.append_assoc]

theorem picks_summary :
    summary.Picks summary?
      (fun counts => .finished counts.1 counts.2.1 counts.2.2.1 counts.2.2.2)
      fun counts =>
        toString counts.1 ++ " lines: " ++ toString counts.2.1 ++ " matched, " ++
          toString counts.2.2.1 ++ " files written, " ++ toString counts.2.2.2 ++ " failed" where
  covers found := by
    unfold Covers Event.level message
    cases found <;> simp [summary, summary?]
  made found member picked := by
    cases found <;> cases picked
    rfl
  worded member := by
    simp [entry, Event.level, message.eq_def, summary, String.append_assoc]

end Kind

end Event

end ChainLaunchers
