/-
Module: ChainLaunchers.Proofs.Run.ReportJson
Purpose: The JSON text of a report says the whole report, and nothing else.
Trusted boundary: none
Main exports:
  Report.ReadsAs, Report.value, Report.spells_of_toJson, Report.same_of_toJson
-/
import ChainLaunchers.Proofs.Text.Encoding
import ChainLaunchers.Proofs.Text.Json
import ChainLaunchers.Run.ReportText
import Mathlib.Data.List.Forall2

namespace ChainLaunchers

open List (Forall₂)

/-! ### Going through lists -/

/-- Going through a list yields the results that its members have. -/
theorem forall₂_of_mapM {α β ε : Type} {f : α → Except ε β} {members : List α} {results : List β}
    (done : members.mapM f = .ok results) :
    Forall₂ (fun member result => f member = .ok result) members results := by
  induction members generalizing results with
  | nil =>
      cases done
      exact .nil
  | cons member members ih =>
      rw [List.mapM_cons] at done
      cases head : f member with
      | error fault =>
          rw [head] at done
          cases done
      | ok result =>
          cases tail : members.mapM f with
          | error fault =>
              rw [head, tail] at done
              cases done
          | ok others =>
              rw [head, tail] at done
              cases done
              exact .cons head (ih tail)

/-- Where every two members are related by way of a third, so are the lists. -/
theorem exists_middles {α β γ : Type} {f : γ → α} {related : β → γ → Prop} {left : List α}
    {right : List β}
    (each : Forall₂ (fun first second => ∃ middle, f middle = first ∧ related second middle)
      left right) :
    ∃ middles : List γ, middles.map f = left ∧ Forall₂ related right middles := by
  induction each with
  | nil => exact ⟨[], rfl, .nil⟩
  | cons head _ ih =>
      obtain ⟨middle, rfl, related⟩ := head
      obtain ⟨middles, rfl, others⟩ := ih
      exact ⟨middle :: middles, rfl, .cons related others⟩

namespace Report

open Json (Token Lexes Spells separated)

/-! ### Layout -/

theorem lexes_indent (depth : Nat) {rest : List Char} {tokens : List Token}
    (later : Lexes rest tokens) : Lexes ((indent depth).toList ++ rest) tokens := by
  rw [indent, String.toList_ofList]
  induction 2 * depth with
  | zero => exact later
  | succ count ih => exact .blank (by decide) ih

/-- Members one to a line, each with a comma behind it but the last. -/
theorem lexes_intercalate (depth : Nat) {members : List String} {parts : List (List Token)}
    (each : Forall₂ (fun member part => Lexes member.toList part) members parts) :
    Lexes (String.intercalate ",\n" (members.map fun member => indent depth ++ member)).toList
      (separated parts) := by
  rw [String.toList_intercalate, List.map_map]
  induction each with
  | nil => exact .done
  | @cons member part members parts head tail ih =>
      have own : Lexes (indent depth ++ member).toList part := by
        rw [String.toList_append]
        exact lexes_indent depth head
      cases tail with
      | nil => simpa [separated] using own
      | cons next later =>
          have comma : ',' ∈ Json.marks := by decide
          have feed : '\n' ∈ Json.blanks := by decide
          have line := own.append (.token (.mark comma) (.blank feed ih)) (by simp)
          simpa [separated] using line

/-- Members between brackets. -/
theorem lexes_bracketed {opening closing : String} {first last : Char}
    (opens : opening.toList = [first]) (closes : closing.toList = [last])
    (known : first ∈ Json.marks ∧ last ∈ Json.marks) (depth : Nat) {members : List String}
    {parts : List (List Token)}
    (each : Forall₂ (fun member part => Lexes member.toList part) members parts) :
    Lexes (bracketed opening closing depth members).toList
      (.mark first :: separated parts ++ [.mark last]) := by
  have ending : Lexes [last] [.mark last] := .token (.mark known.2) .done
  cases each with
  | nil => simpa [bracketed, separated, opens, closes] using Lexes.token (.mark known.1) ending
  | cons head tail =>
      have feed : '\n' ∈ Json.blanks := by decide
      have inside := (lexes_intercalate (depth + 1) (.cons head tail)).append
        (.blank feed (lexes_indent depth ending)) (by simp)
      have whole := Lexes.token (.mark known.1) (.blank feed inside)
      simpa [bracketed, opens, closes] using whole

theorem spells_jsonList (depth : Nat) {texts : List String} {items : List Json}
    (each : Forall₂ Spells texts items) : Spells (jsonList depth texts) (.list items) := by
  refine lexes_bracketed (by simp) (by simp) (by decide) depth ?_
  induction each with
  | nil => exact .nil
  | cons head _ ih => exact .cons head ih

theorem spells_jsonObject (depth : Nat) {texts : List (String × String)}
    {members : List (String × Json)}
    (each : Forall₂ (fun text member => text.1 = member.1 ∧ Spells text.2 member.2) texts members) :
    Spells (jsonObject depth texts) (.object members) := by
  refine lexes_bracketed (by simp) (by simp) (by decide) depth ?_
  induction each with
  | nil => exact .nil
  | @cons text member _ _ head _ ih =>
      have value := Lexes.token (.mark (by decide : ':' ∈ Json.marks))
        (.blank (by decide : ' ' ∈ Json.blanks) head.2)
      have line := (Json.spells_inJson text.1).append value (by simp)
      refine .cons ?_ ih
      simpa [Json.tokens, head.1] using line

theorem spells_jsonBool (value : Bool) : Spells (jsonBool value) (.truth value) := by
  cases value with
  | false => exact .token .no .done
  | true => exact .token .yes .done

/-! ### Values -/

/-- The path of a failed write and the reason, as texts. -/
structure Failing where
  path : String
  reason : String

/-- The JSON value of a failed write. -/
def Failing.value (failing : Failing) : Json :=
  .object [("path", .text failing.path), ("reason", .text failing.reason)]

theorem Failing.value_injective : Function.Injective value := by
  rintro ⟨path, reason⟩ ⟨path', reason'⟩ same
  simpa [value] using same

/-- These texts are the paths and reasons of a report. -/
structure ReadsAs (report : Report) (files : List String) (failures : List Failing) : Prop where
  written : files.map Utf8.ofString = report.written
  failed : (failures.map fun failing => (Utf8.ofString failing.path, failing.reason)) =
    report.failed.map fun failed => (failed.path, failed.cause.message)

/-- The JSON value of a report with these paths and reasons. -/
def value (report : Report) (files : List String) (failures : List Failing) : Json :=
  .object
    [("lines_read", .number report.linesRead),
      ("lines_matched", .number report.linesMatched),
      ("written", .list (files.map .text)),
      ("overwritten", .number report.overwritten),
      ("failed", .list (failures.map Failing.value)),
      ("dry_run", .truth report.dryRun)]

/-! ### What is printed -/

theorem spells_of_jsonPath {path : Path} {text : String} (printed : jsonPath path = .ok text) :
    ∃ file, Utf8.ofString file = path ∧ Spells text (.text file) := by
  rw [jsonPath] at printed
  cases read : Utf8.toString? path with
  | none =>
      rw [read] at printed
      cases printed
  | some file =>
      rw [read] at printed
      cases printed
      exact ⟨file, (Utf8.toString?_eq_some_iff path file).1 read, Json.spells_inJson file⟩

theorem spells_of_jsonFailedWrite {failed : FailedWrite} {text : String}
    (printed : jsonFailedWrite failed = .ok text) :
    ∃ failing : Failing,
      (Utf8.ofString failing.path, failing.reason) = (failed.path, failed.cause.message) ∧
        Spells text failing.value := by
  rw [jsonFailedWrite] at printed
  cases shown : jsonPath failed.path with
  | error fault =>
      rw [shown] at printed
      cases printed
  | ok quoted =>
      obtain ⟨file, same, spells⟩ := spells_of_jsonPath shown
      rw [shown] at printed
      cases printed
      refine ⟨⟨file, failed.cause.message⟩, by rw [same], ?_⟩
      exact spells_jsonObject 2
        (.cons ⟨rfl, spells⟩ (.cons ⟨rfl, Json.spells_inJson failed.cause.message⟩ .nil))

theorem spells_of_jsonPaths {paths : List Path} {texts : List String}
    (printed : paths.mapM jsonPath = .ok texts) :
    ∃ files : List String, files.map Utf8.ofString = paths ∧
      Forall₂ Spells texts (files.map .text) := by
  obtain ⟨files, same, spells⟩ :=
    exists_middles ((forall₂_of_mapM printed).imp fun _ _ => spells_of_jsonPath)
  exact ⟨files, same, List.forall₂_map_right_iff.2 spells⟩

theorem spells_of_jsonFailedWrites {failed : List FailedWrite} {texts : List String}
    (printed : failed.mapM jsonFailedWrite = .ok texts) :
    ∃ failures : List Failing,
      (failures.map fun failing => (Utf8.ofString failing.path, failing.reason)) =
          (failed.map fun failed => (failed.path, failed.cause.message)) ∧
        Forall₂ Spells texts (failures.map Failing.value) := by
  have each : Forall₂
      (fun failure text => ∃ failing : Failing,
        (Utf8.ofString failing.path, failing.reason) = failure ∧ Spells text failing.value)
      (failed.map fun failed => (failed.path, failed.cause.message)) texts :=
    List.forall₂_map_left_iff.2
      ((forall₂_of_mapM printed).imp fun _ _ => spells_of_jsonFailedWrite)
  obtain ⟨failures, same, spells⟩ := exists_middles each
  exact ⟨failures, same, List.forall₂_map_right_iff.2 spells⟩

/-- What is printed of a report says its value, and nothing else. -/
theorem spells_of_toJson {report : Report} {text : String} (printed : report.toJson = .ok text) :
    ∃ files failures, report.ReadsAs files failures ∧
      ∀ value, Spells text value ↔ value = report.value files failures := by
  rw [toJson] at printed
  cases paths : report.written.mapM jsonPath with
  | error fault =>
      rw [paths] at printed
      cases printed
  | ok texts =>
      cases objects : report.failed.mapM jsonFailedWrite with
      | error fault =>
          rw [paths, objects] at printed
          cases printed
      | ok texts' =>
          rw [paths, objects] at printed
          obtain ⟨files, written, items⟩ := spells_of_jsonPaths paths
          obtain ⟨failures, failed, items'⟩ := spells_of_jsonFailedWrites objects
          have spells : Spells text (report.value files failures) := by
            rw [← Except.ok.inj printed]
            exact spells_jsonObject 0
              (.cons ⟨rfl, Json.spells_toString report.linesRead⟩
                (.cons ⟨rfl, Json.spells_toString report.linesMatched⟩
                  (.cons ⟨rfl, spells_jsonList 1 items⟩
                    (.cons ⟨rfl, Json.spells_toString report.overwritten⟩
                      (.cons ⟨rfl, spells_jsonList 1 items'⟩
                        (.cons ⟨rfl, spells_jsonBool report.dryRun⟩ .nil))))))
          refine ⟨files, failures, ⟨written, failed⟩, fun value => ⟨fun said => ?_, ?_⟩⟩
          · exact said.unique spells
          · rintro rfl
            exact spells

/-- Two reports with one text are the same, but for causes with one wording. -/
theorem same_of_toJson {report other : Report} {text : String}
    (printed : report.toJson = .ok text) (printed' : other.toJson = .ok text) :
    other = { report with failed := other.failed } ∧
      (report.failed.map fun failed => (failed.path, failed.cause.message)) =
        other.failed.map fun failed => (failed.path, failed.cause.message) := by
  obtain ⟨files, failures, reads, only⟩ := spells_of_toJson printed
  obtain ⟨files', failures', reads', only'⟩ := spells_of_toJson printed'
  have same := (only _).1 ((only' _).2 rfl)
  simp only [value, Json.object.injEq, List.cons.injEq, Prod.mk.injEq, Json.number.injEq,
    Json.list.injEq, Json.truth.injEq, true_and, and_true] at same
  obtain ⟨linesRead, linesMatched, written, overwritten, failed, dryRun⟩ := same
  obtain rfl := List.map_injective_iff.2 (fun _ _ => Json.text.inj) written
  obtain rfl := List.map_injective_iff.2 Failing.value_injective failed
  have files := reads'.written.symm.trans reads.written
  refine ⟨?_, reads.failed.symm.trans reads'.failed⟩
  cases report
  cases other
  simp_all

end Report

end ChainLaunchers
