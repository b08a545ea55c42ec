/-
Module: ChainLaunchers.Proofs.Run.Concatenation
Purpose: A run over data that is cut behind a line feed is a run over the first part and, on the
  tree that it leaves, a run over the second part.
Trusted boundary: none
Main exports:
  Line.ofData_append_of_ended, countRepeated_append, Report.Joins, Generator.fileNames,
  Generator.joins_ofFates, Generator.joins_of_going, Generator.concatenation_is_sequence
-/
import ChainLaunchers.Proofs.Run.Abort
import ChainLaunchers.Proofs.Run.Report

namespace ChainLaunchers

/-! ### Cutting data behind a line feed -/

namespace Line

/-- Data that is empty or ends with a line feed has no unfinished line. -/
theorem unfinished_of_ended {data : Bytes} (ended : data = [] ∨ data.getLast? = some feed) :
    (cut data).2 = [] := by
  rcases ended with rfl | last
  · rfl
  · by_contra unfinished
    have whole := flatten_cut data
    have same : (cut data).2.getLast? = some feed := by
      rw [← whole, List.getLast?_append_of_ne_nil _ unfinished] at last
      exact last
    exact feed_not_mem_unfinished data (List.mem_of_getLast? same)

theorem ofData_append_of_ended {first : Bytes} (ended : first = [] ∨ first.getLast? = some feed)
    (second : Bytes) : ofData (first ++ second) = ofData first ++ ofData second := by
  have unfinished := unfinished_of_ended ended
  have finished := ofData_append first []
  rw [List.append_nil, unfinished] at finished
  rw [ofData_append, unfinished, finished]
  simp [ofData, cut]

end Line

/-! ### Repeated names in two parts -/

/-- A name that both parts have is repeated once more in the whole. -/
theorem countRepeated_append (first second : List Name) :
    countRepeated [] (first ++ second) =
      countRepeated [] first + countRepeated [] second +
        (first.toFinset ∩ second.toFinset).card := by
  have whole := countRepeated_add_distinct (first ++ second)
  have front := countRepeated_add_distinct first
  have back := countRepeated_add_distinct second
  have shared := Finset.card_union_add_card_inter first.toFinset second.toFinset
  rw [List.toFinset_append, List.length_append] at whole
  omega

/-! ### Reports of two parts -/

/-- The report of a whole run is put together from the reports of its two parts, when `shared` is
the number of names that both parts have. -/
structure Report.Joins (first second whole : Report) (shared : Nat) : Prop where
  linesRead : whole.linesRead = first.linesRead + second.linesRead
  linesMatched : whole.linesMatched = first.linesMatched + second.linesMatched
  written : whole.written = first.written ++ second.written
  failed : whole.failed = first.failed ++ second.failed
  overwritten : whole.overwritten = first.overwritten + second.overwritten + shared

namespace Generator

variable {generator : Generator}

/-- The file names that the lines of some data give, in their order. -/
def fileNames (generator : Generator) (data : Bytes) : List Name :=
  (generator.launchers (Line.ofData data)).map Launcher.fileName

/-- The reports of fates are joined like the fates. -/
theorem joins_ofFates (generator : Generator) (first second : List Fate) :
    (Report.ofFates generator first).Joins (Report.ofFates generator second)
      (Report.ofFates generator (first ++ second))
      (((first.filterMap Fate.launcher?).map Launcher.fileName).toFinset ∩
        ((second.filterMap Fate.launcher?).map Launcher.fileName).toFinset).card := by
  constructor
  · exact List.length_append
  · simp only [Report.ofFates, List.filterMap_append, List.length_append]
  · simp only [Report.ofFates, List.filterMap_append, List.map_append]
  · simp only [Report.ofFates, List.filterMap_append, List.map_append]
  · simp only [Report.ofFates, List.filterMap_append, List.map_append, countRepeated_append]

/-- If no line is fatal, the reports of two parts join, however the second part starts. -/
theorem joins_of_going {tree middle : Tree} {first second : Bytes}
    (going : stops (generator.treatAll tree (Line.ofData first)).1 = false)
    (going' : stops (generator.treatAll middle (Line.ofData second)).1 = false) :
    (Report.ofFates generator (generator.treatAll tree (Line.ofData first)).1).Joins
      (Report.ofFates generator (generator.treatAll middle (Line.ofData second)).1)
      (Report.ofFates generator ((generator.treatAll tree (Line.ofData first)).1 ++
        (generator.treatAll middle (Line.ofData second)).1))
      ((generator.fileNames first).toFinset ∩ (generator.fileNames second).toFinset).card := by
  rw [fileNames, fileNames, ← filterMap_launcher? going, ← filterMap_launcher? going']
  exact joins_ofFates generator _ _

/-! ### Whole runs -/

/-- Running over data at once is running over it in two parts, where failing writes are recorded.
The first part is empty or ends with a line feed, and the run over the second part starts on the
tree that the first one leaves.  The trees are the same in the end; what is read, matched, written
and refused adds up, and what is overwritten does so but for the names that both parts have. -/
theorem concatenation_is_sequence (going : generator.keepGoing = true) {first : Bytes}
    (ended : first = [] ∨ first.getLast? = some Line.feed) (second : Bytes) {size : Nat}
    (positive : 0 < size) (label : Path) (tree : Tree) :
    ∃ own other whole,
      (generator.runOver (.memory first none) size label tree).result = .ok own ∧
      (generator.runOver (.memory second none) size label
        (generator.runOver (.memory first none) size label tree).tree).result = .ok other ∧
      (generator.runOver (.memory (first ++ second) none) size label tree).result = .ok whole ∧
      (generator.runOver (.memory (first ++ second) none) size label tree).tree =
        (generator.runOver (.memory second none) size label
          (generator.runOver (.memory first none) size label tree).tree).tree ∧
      own.Joins other whole
        ((generator.fileNames first).toFinset ∩ (generator.fileNames second).toFinset).card := by
  have front := stops_treatAll_of_keepGoing going tree (Line.ofData first)
  have back := stops_treatAll_of_keepGoing going (generator.treatAll tree (Line.ofData first)).2
    (Line.ofData second)
  have both := treatAll_append generator tree (Line.ofData first) (Line.ofData second)
  rw [front, if_neg Bool.false_ne_true] at both
  have harmless := stops_append (generator.treatAll tree (Line.ofData first)).1
    (generator.treatAll (generator.treatAll tree (Line.ofData first)).2 (Line.ofData second)).1
  rw [front, back, Bool.or_false] at harmless
  have left : (generator.runOver (.memory first none) size label tree).tree =
      (generator.treatAll tree (Line.ofData first)).2 := by
    rw [runOver, run_memory_none generator positive]
    rfl
  rw [left, runOver, run_memory_none generator positive, runOver,
    run_memory_none generator positive, runOver, run_memory_none generator positive,
    Line.ofData_append_of_ended ended, both]
  exact ⟨_, _, _, result_of_going front label, result_of_going back label,
    result_of_going harmless label, rfl, joins_of_going front back⟩

/-- A part that repeats a chain and names one whose launcher is refused. -/
def repeating : Bytes := Utf8.ofString "-ac_name=BEER\n-ac_name=DEX &\n-ac_name=beer -gen\n"

/-- In each part one of three launchers replaces another, and in the whole four of six do. -/
theorem concatenation_is_sequence_where_name_is_taken :
    (repeating = [] ∨ repeating.getLast? = some Line.feed) ∧
    ∃ own other whole,
      ({ standard with keepGoing := true }.runOver (.memory repeating none) 8192 [] taken).result =
        .ok own ∧
      ({ standard with keepGoing := true }.runOver (.memory repeating none) 8192 []
        ({ standard with keepGoing := true }.runOver (.memory repeating none) 8192 []
          taken).tree).result = .ok other ∧
      ({ standard with keepGoing := true }.runOver (.memory (repeating ++ repeating) none) 8192 []
        taken).result = .ok whole ∧
      ({ standard with keepGoing := true }.runOver (.memory (repeating ++ repeating) none) 8192 []
          taken).tree =
        ({ standard with keepGoing := true }.runOver (.memory repeating none) 8192 []
          ({ standard with keepGoing := true }.runOver (.memory repeating none) 8192 []
            taken).tree).tree ∧ own.Joins other whole 2 :=
  ⟨by decide, concatenation_is_sequence rfl (by decide) repeating (by decide) [] taken⟩

end Generator

end ChainLaunchers
