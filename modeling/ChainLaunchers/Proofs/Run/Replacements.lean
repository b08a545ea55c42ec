/-
Module: ChainLaunchers.Proofs.Run.Replacements
Purpose: What a report counts as overwritten: the files that the run had written before, and
  besides them the launchers whose path had been refused before.
Trusted boundary: none
Main exports:
  repetitions, repetitions_concat, repetitions_add_distinct, repetitions_eq_zero_iff,
  Generator.not_mem_failed_of_mem_written, Report.CountsRepetitions,
  Generator.counts_repetitions, Generator.counts_what_is_not_replaced
-/
import ChainLaunchers.Proofs.Run.Abort
import ChainLaunchers.Proofs.Run.CleanLines

namespace ChainLaunchers

/-! ### Repetitions -/

/-- At how many positions a list has a member that occurs earlier in it. -/
def repetitions {α : Type} [DecidableEq α] (members : List α) : Nat :=
  members.zipIdx.countP fun (member, position) => member ∈ members.take position

section

variable {α : Type} [DecidableEq α]

theorem repetitions_concat (earlier : List α) (last : α) :
    repetitions (earlier ++ [last]) = repetitions earlier + if last ∈ earlier then 1 else 0 := by
  have before : (earlier.zipIdx.countP fun (member, position) =>
      member ∈ (earlier ++ [last]).take position) = repetitions earlier := by
    apply List.countP_congr
    rintro ⟨member, position⟩ mem
    have within : position ≤ earlier.length := Nat.le_of_lt (List.snd_lt_of_mem_zipIdx mem)
    simp only [List.take_append_of_le_length within]
  rw [repetitions, List.zipIdx_append, List.countP_append, before, Nat.zero_add]
  simp [List.countP_singleton]

/-- The positions that repeat a member and the distinct members make up the list. -/
theorem repetitions_add_distinct (members : List α) :
    repetitions members + members.toFinset.card = members.length := by
  induction members using List.reverseRecOn with
  | nil => rfl
  | append_singleton earlier last ih =>
      rw [repetitions_concat, List.length_append, ← ih, List.toFinset_append, List.length_singleton,
        List.toFinset_cons, List.toFinset_nil, Finset.union_insert, Finset.union_empty]
      by_cases repeated : last ∈ earlier
      · rw [if_pos repeated, Finset.insert_eq_of_mem (List.mem_toFinset.2 repeated)]
        omega
      · rw [if_neg repeated, Finset.card_insert_of_notMem (mt List.mem_toFinset.1 repeated)]
        omega

theorem repetitions_eq_zero_iff {members : List α} : repetitions members = 0 ↔ members.Nodup := by
  have total := repetitions_add_distinct members
  have distinct := Multiset.toFinset_card_eq_card_iff_nodup (m := (members : Multiset α))
  rw [Multiset.coe_card, Multiset.coe_nodup] at distinct
  rw [← distinct]
  change _ ↔ members.toFinset.card = members.length
  omega

end

theorem Interleaves.perm {α : Type} {left right whole : List α}
    (interleaves : Interleaves left right whole) : (left ++ right).Perm whole := by
  induction interleaves with
  | nil => exact List.Perm.refl []
  | left member rest ih => exact ih.cons member
  | right member rest ih => exact List.perm_middle.trans (ih.cons member)

theorem Fate.refused?_eq_some_iff {fate : Fate} {launcher : Launcher} {cause : IoError} :
    fate.refused? = some (launcher, cause) ↔ fate = .refused launcher cause := by
  cases fate <;> simp [Fate.refused?]

theorem Fate.launcher?_of_done? {fate : Fate} {launcher : Launcher}
    (done : fate.done? = some launcher) : fate.launcher? = some launcher := by
  cases fate with
  | planned other => exact done
  | written other => exact done
  | skipped => cases done
  | refused other cause => cases done
  | fatal other cause => cases done

/-- What the count of overwritten files stands for. -/
structure Report.CountsRepetitions (report : Report) : Prop where
  /-- A path that is refused once more is counted like a file that is written once more. -/
  total : report.overwritten =
    repetitions report.written + repetitions (report.failed.map FailedWrite.path)
  /-- The count is that of the files written before just if no path is refused twice. -/
  exact_iff : report.overwritten = repetitions report.written ↔
    (report.failed.map FailedWrite.path).Nodup
  /-- No file that is written is refused at another line. -/
  apart : ∀ path ∈ report.written, path ∉ report.failed.map FailedWrite.path

namespace Generator

variable {generator : Generator}

/-! ### Written and refused paths -/

theorem isEntryName_of_mem_treatAll (accepted : generator.IsAccepted) {tree : Tree}
    {lines : List Bytes} {fate : Fate} (mem : fate ∈ (generator.treatAll tree lines).1)
    {launcher : Launcher} (named : fate.launcher? = some launcher) :
    Path.IsEntryName launcher.fileName := by
  obtain ⟨line, -, same⟩ := exists_line_of_mem_treatAll mem
  exact accepted.isEntryName (same.symm.trans named)

/-- Whether a path can be written does not change in the course of a run. -/
theorem not_mem_failed_of_mem_written (accepted : generator.IsAccepted) (tree : Tree)
    (lines : List Bytes) {path : Path}
    (done : path ∈ (Report.ofFates generator (generator.treatAll tree lines).1).written) :
    path ∉ (Report.ofFates generator (generator.treatAll tree lines).1).failed.map
      FailedWrite.path := by
  intro failed
  rw [failed_ofFates, List.map_map] at failed
  obtain ⟨first, present, rfl⟩ := List.mem_map.1 done
  obtain ⟨⟨second, cause⟩, refused, same⟩ := List.mem_map.1 failed
  obtain ⟨fate, mem, isDone⟩ := List.mem_filterMap.1 present
  obtain ⟨fate', mem', isRefused⟩ := List.mem_filterMap.1 refused
  obtain rfl := Fate.refused?_eq_some_iff.1 isRefused
  obtain ⟨real, blocked⟩ := suits_treatAll accepted mem'
  have names : second.fileName = first.fileName :=
    Path.join_injective (isEntryName_of_mem_treatAll accepted mem' rfl)
      (isEntryName_of_mem_treatAll accepted mem (Fate.launcher?_of_done? isDone)) same
  cases fate with
  | planned launcher =>
      have dry : generator.dryRun = true := suits_treatAll accepted mem
      rw [real] at dry
      cases dry
  | written launcher =>
      obtain rfl := Option.some.inj isDone
      rw [names] at blocked
      exact blocked (suits_treatAll accepted mem).2
  | skipped => cases isDone
  | refused launcher cause => cases isDone
  | fatal launcher cause => cases isDone

/-! ### Distinct paths -/

/-- Launchers have as many paths as they have file names. -/
theorem card_paths {launchers : List Launcher}
    (entries : ∀ launcher ∈ launchers, Path.IsEntryName launcher.fileName) :
    (launchers.map generator.pathOf).toFinset.card =
      (launchers.map Launcher.fileName).toFinset.card := by
  have image : (launchers.map generator.pathOf).toFinset =
      (launchers.map Launcher.fileName).toFinset.image generator.outputDirectory.join := by
    ext path
    simp only [List.mem_toFinset, List.mem_map, Finset.mem_image, exists_exists_and_eq_and]
    rfl
  rw [image]
  apply Finset.card_image_of_injOn
  intro first mem second mem' same
  rw [Finset.mem_coe, List.mem_toFinset] at mem mem'
  obtain ⟨launcher, present, rfl⟩ := List.mem_map.1 mem
  obtain ⟨launcher', present', rfl⟩ := List.mem_map.1 mem'
  exact Path.join_injective (entries launcher present) (entries launcher' present') same

theorem countsRepetitions_of_going (accepted : generator.IsAccepted) {tree : Tree}
    {lines : List Bytes} (going : stops (generator.treatAll tree lines).1 = false) :
    (Report.ofFates generator (generator.treatAll tree lines).1).CountsRepetitions := by
  have adds := addsUp_of_going going
  have apart := @not_mem_failed_of_mem_written generator accepted tree lines
  generalize Report.ofFates generator (generator.treatAll tree lines).1 = report at adds apart ⊢
  have total : report.overwritten =
      repetitions report.written + repetitions (report.failed.map FailedWrite.path) := by
    have repeats := adds.repeats
    have entries : ∀ launcher ∈ generator.launchers lines, Path.IsEntryName launcher.fileName :=
      fun launcher mem => isEntryName_of_mem_launchers accepted mem
    have disjoint : Disjoint report.written.toFinset
        (report.failed.map FailedWrite.path).toFinset := by
      rw [Finset.disjoint_left]
      intro path done failed
      exact apart (List.mem_toFinset.1 done) (List.mem_toFinset.1 failed)
    rw [← card_paths entries, ← List.toFinset_eq_of_perm _ _ adds.paths.perm,
      List.toFinset_append, Finset.card_union_of_disjoint disjoint, ← adds.total] at repeats
    have written := repetitions_add_distinct report.written
    have failed := repetitions_add_distinct (report.failed.map FailedWrite.path)
    rw [List.length_map] at failed
    omega
  refine ⟨total, ?_, fun path done => apart done⟩
  rw [← repetitions_eq_zero_iff, total]
  omega

/-! ### Whole runs -/

/-- The count of overwritten files takes in, besides the files that the run had written before,
the launchers whose path it had failed to write before. -/
theorem counts_repetitions (accepted : generator.IsAccepted) {source : Source} {size : Nat}
    {label : Path} {tree : Tree} {report : Report}
    (completed : (generator.runOver source size label tree).result = .ok report) :
    report.CountsRepetitions := by
  obtain ⟨lines, -, fates, -⟩ :=
    exists_lines_readLines generator source size tree 0 List.not_mem_nil
  obtain ⟨going, -, rfl⟩ := going_of_result label completed
  rw [run] at going ⊢
  rw [fates] at going ⊢
  exact countsRepetitions_of_going accepted going

/-- The default generator, set to record files that cannot be written. -/
def persistent : Generator := { standard with keepGoing := true }

/-- One launcher is written twice here, and another one is refused twice. -/
theorem counts_repetitions_where_name_is_taken :
    ∃ report, (persistent.runOver
        (.memory (Utf8.ofString "-ac_name=BEER\n-ac_name=DEX\n-ac_name=beer\n-ac_name=DEX\n") none)
        blockSize [] taken).result = .ok report ∧
      report.overwritten = 2 ∧ repetitions report.written = 1 ∧ report.CountsRepetitions := by
  let report : Report :=
    { linesRead := 4, linesMatched := 4, overwritten := 2, dryRun := false
      written := [Utf8.ofString "./beer.cmd", Utf8.ofString "./beer.cmd"]
      failed := [⟨Utf8.ofString "./dex.cmd", .isDirectory⟩,
        ⟨Utf8.ofString "./dex.cmd", .isDirectory⟩] }
  have completed : (persistent.runOver
      (.memory (Utf8.ofString "-ac_name=BEER\n-ac_name=DEX\n-ac_name=beer\n-ac_name=DEX\n") none)
      blockSize [] taken).result = .ok report := by decide +kernel
  exact ⟨report, completed, rfl, by decide,
    counts_repetitions (isAccepted_standard false true) completed⟩

/-- Two launchers of the same name that both fail count as an overwritten file, although no file
is written. -/
theorem counts_what_is_not_replaced :
    ∃ report, (persistent.runOver (.memory (Utf8.ofString "-ac_name=DEX\n-ac_name=DEX\n") none)
        blockSize [] taken).result = .ok report ∧
      report.overwritten = 1 ∧ repetitions report.written = 0 := by
  refine ⟨⟨2, 2, [], 1, [⟨Utf8.ofString "./dex.cmd", .isDirectory⟩,
    ⟨Utf8.ofString "./dex.cmd", .isDirectory⟩], false⟩, ?_, rfl, rfl⟩
  decide +kernel

end Generator

end ChainLaunchers
