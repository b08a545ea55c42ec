/-
Module: ChainLaunchers.Proofs.Run.LineEnds
Purpose: A run over data with other line ends, or with an end for its unfinished line, is the same
  run.
Trusted boundary: none
Main exports:
  Generator.treatAll_congr, Line.withReturns, Generator.map_launcher?_withReturns,
  Generator.map_launcher?_append_feed, Generator.IgnoresLineEnds,
  Generator.line_ends_are_irrelevant
-/
import ChainLaunchers.Proofs.Generator.LineEnd
import ChainLaunchers.Proofs.Run.Reading

namespace ChainLaunchers

namespace Generator

variable {generator : Generator}

/-! ### Lines with the same launchers -/

/-- Of a line, nothing but its launcher decides about its fate. -/
theorem treat_congr {line line' : Bytes}
    (same : generator.launcher? line = generator.launcher? line') (tree : Tree) :
    generator.treat tree line = generator.treat tree line' := by
  simp only [treat, same]

theorem treatAll_congr {lines lines' : List Bytes}
    (same : lines.map generator.launcher? = lines'.map generator.launcher?) (tree : Tree) :
    generator.treatAll tree lines = generator.treatAll tree lines' := by
  induction lines generalizing lines' tree with
  | nil =>
      obtain rfl := List.map_eq_nil_iff.1 same.symm
      rfl
  | cons line rest ih =>
      obtain ⟨line', rest', rfl, here, later⟩ := List.map_eq_cons_iff.1 same.symm
      rw [treatAll_cons, treatAll_cons, treat_congr here.symm, ih later.symm]

/-- Runs over data whose lines have the same launchers are the same, whatever the sizes of the
blocks. -/
theorem runOver_congr {data data' : Bytes}
    (same : (Line.ofData data).map generator.launcher? =
      (Line.ofData data').map generator.launcher?)
    {size size' : Nat} (positive : 0 < size) (positive' : 0 < size') (label : Path)
    (tree : Tree) :
    generator.runOver (.memory data none) size label tree =
      generator.runOver (.memory data' none) size' label tree := by
  rw [runOver, run_memory_none generator positive, treatAll_congr same, runOver,
    run_memory_none generator positive']

end Generator

/-! ### Carriage returns before line feeds -/

namespace Line

/-- The data with a carriage return put in front of every line feed. -/
def withReturns (data : Bytes) : Bytes :=
  data.flatMap fun byte => if byte = feed then [carriageReturn, feed] else [byte]

theorem withReturns_of_not_mem {body : Bytes} (unbroken : feed ∉ body) :
    withReturns body = body := by
  induction body with
  | nil => rfl
  | cons byte rest ih =>
      simp only [List.mem_cons, not_or] at unbroken
      have others := ih unbroken.2
      rw [withReturns] at others ⊢
      rw [List.flatMap_cons, if_neg (Ne.symm unbroken.1), others]
      rfl

theorem withReturns_append_feed {body : Bytes} (unbroken : feed ∉ body) (rest : Bytes) :
    withReturns (body ++ feed :: rest) =
      (body ++ [carriageReturn]) ++ feed :: withReturns rest := by
  have own := withReturns_of_not_mem unbroken
  rw [withReturns] at own ⊢
  rw [List.flatMap_append, own, List.flatMap_cons, if_pos rfl, List.append_assoc]
  rfl

example : withReturns [1, 10, 13, 10, 2] = [1, 13, 10, 13, 13, 10, 2] := by decide

end Line

namespace Generator

variable {generator : Generator}

theorem launcher?_append_feed (inside : generator.SearchesInsideLines) (line : Bytes) :
    generator.launcher? (line ++ [Line.feed]) = generator.launcher? line :=
  launcher?_append inside Line.isEnding_feed line

theorem launcher?_append_return_feed (inside : generator.SearchesInsideLines) (line : Bytes) :
    generator.launcher? (line ++ [Line.carriageReturn, Line.feed]) = generator.launcher? line :=
  launcher?_append inside Line.isEnding_return_feed line

theorem map_launcher?_withReturns (inside : generator.SearchesInsideLines) (data : Bytes) :
    (Line.ofData (Line.withReturns data)).map generator.launcher? =
      (Line.ofData data).map generator.launcher? := by
  induction data using Line.data_induction with
  | unfinished body unbroken => rw [Line.withReturns_of_not_mem unbroken]
  | finished body rest unbroken ih =>
      have unbroken' : Line.feed ∉ body ++ [Line.carriageReturn] := by
        rw [List.mem_append, List.mem_singleton, not_or]
        exact ⟨unbroken, by decide⟩
      have first : generator.launcher? (body ++ [Line.carriageReturn] ++ [Line.feed]) =
          generator.launcher? (body ++ [Line.feed]) := by
        rw [List.append_assoc, launcher?_append_feed inside]
        exact launcher?_append_return_feed inside body
      rw [Line.withReturns_append_feed unbroken, Line.ofData_append_feed unbroken',
        Line.ofData_append_feed unbroken, List.map_cons, List.map_cons, first, ih]

/-! ### The end of the last line -/

theorem map_launcher?_append_feed (inside : generator.SearchesInsideLines) {data : Bytes}
    (nonempty : data ≠ []) (unfinished : data.getLast? ≠ some Line.feed) :
    (Line.ofData (data ++ [Line.feed])).map generator.launcher? =
      (Line.ofData data).map generator.launcher? := by
  induction data using Line.data_induction with
  | unfinished body unbroken =>
      rw [Line.ofData_append_feed unbroken, Line.ofData_of_not_mem unbroken, if_neg nonempty,
        List.map_cons, List.map_cons, launcher?_append_feed inside]
      rfl
  | finished body rest unbroken ih =>
      have more : rest ≠ [] := by
        rintro rfl
        exact unfinished (List.getLast?_concat)
      have last : rest.getLast? ≠ some Line.feed := by
        obtain ⟨first, others, rfl⟩ := List.exists_cons_of_ne_nil more
        rwa [List.getLast?_append_cons, List.getLast?_cons_cons] at unfinished
      rw [List.append_assoc, List.cons_append, Line.ofData_append_feed unbroken,
        Line.ofData_append_feed unbroken, List.map_cons, List.map_cons, ih more last]

/-! ### Whole runs -/

/-- How lines end makes no difference to a generator. -/
structure IgnoresLineEnds (generator : Generator) : Prop where
  line : ∀ line : Bytes, generator.launcher? (line ++ [Line.feed]) = generator.launcher? line ∧
    generator.launcher? (line ++ [Line.carriageReturn, Line.feed]) = generator.launcher? line
  /-- With a carriage return before every line feed, a run tells and leaves the same and has the
  same result. -/
  returns : ∀ (data : Bytes) (size size' : Nat) (label : Path) (tree : Tree), 0 < size →
    0 < size' → generator.runOver (.memory (Line.withReturns data) none) size label tree =
      generator.runOver (.memory data none) size' label tree
  /-- So it does when the last line, which had no end, has been given one. -/
  last : ∀ (data : Bytes) (size size' : Nat) (label : Path) (tree : Tree), data ≠ [] →
    data.getLast? ≠ some Line.feed → 0 < size → 0 < size' →
    generator.runOver (.memory (data ++ [Line.feed]) none) size label tree =
      generator.runOver (.memory data none) size' label tree

/-- Line ends are irrelevant.  Unless a rule searches for line feeds or carriage returns, a
generator makes the same launcher of a line whether it ends with nothing, with a line feed or with
a carriage return and a line feed, and its runs over data that differ in this alone are the same,
whatever the marker, the replacements and the flags are. -/
theorem line_ends_are_irrelevant (inside : generator.SearchesInsideLines) :
    generator.IgnoresLineEnds := by
  constructor
  · intro line
    exact ⟨launcher?_append_feed inside line, launcher?_append_return_feed inside line⟩
  · intro data size size' label tree positive positive'
    exact runOver_congr (map_launcher?_withReturns inside data) positive positive' label tree
  · intro data size size' label tree nonempty unfinished positive positive'
    exact runOver_congr (map_launcher?_append_feed inside nonempty unfinished) positive positive'
      label tree

/-- A generator that breaks its launchers into lines. -/
def breaking : Generator := { standard with rules := [.replace "&" "\r\n"] }

/-- The rule puts line ends into the middle of a line and at its end. -/
theorem line_ends_are_irrelevant_where_rules_add_them : breaking.SearchesInsideLines ∧
    breaking.runOver (.memory (Line.withReturns (Utf8.ofString
        "-ac_name=BEER & -gen &\n\n-ac_name=DEX&&")) none) 8192 [] Tree.root =
      breaking.runOver (.memory (Utf8.ofString "-ac_name=BEER & -gen &\n\n-ac_name=DEX&&") none) 1
        [] Tree.root :=
  ⟨by decide, (line_ends_are_irrelevant (by decide)).returns _ 8192 1 [] Tree.root (by decide)
    (by decide)⟩

end Generator

end ChainLaunchers
