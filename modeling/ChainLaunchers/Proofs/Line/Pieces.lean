/-
Module: ChainLaunchers.Proofs.Line.Pieces
Purpose: The lines of some data are its only decomposition at the line feeds, and they can be
  cut off piece by piece however the data arrives.
Trusted boundary: none
Main exports:
  Line.IsFinished, Line.Decomposes, Line.decomposes_iff, Line.cut_append, Line.ofData_append,
  Line.ofData_flatten_of_append, Line.finishedPart, Line.ofData_finishedPart
-/
import ChainLaunchers.Line
import Mathlib.Data.List.DropRight

namespace ChainLaunchers

namespace Line

/-! ### Cutting at one line feed -/

theorem cut_of_not_mem {body : Bytes} (unbroken : feed ∉ body) : cut body = ([], body) := by
  induction body with
  | nil => rfl
  | cons byte rest ih =>
      simp only [List.mem_cons, not_or] at unbroken
      rw [cut, if_neg (Ne.symm unbroken.1), ih unbroken.2]

theorem cut_append_feed {body : Bytes} (unbroken : feed ∉ body) (rest : Bytes) :
    cut (body ++ feed :: rest) = ((body ++ [feed]) :: (cut rest).1, (cut rest).2) := by
  induction body with
  | nil => rfl
  | cons byte more ih =>
      simp only [List.mem_cons, not_or] at unbroken
      rw [List.cons_append, cut, if_neg (Ne.symm unbroken.1), ih unbroken.2]
      rfl

/-- Data with a line feed begins with a finished line. -/
theorem exists_first_line {data : Bytes} (broken : feed ∈ data) :
    ∃ body rest, feed ∉ body ∧ data = body ++ feed :: rest := by
  obtain ⟨body, rest, whole, unbroken⟩ := List.eq_append_cons_of_mem broken
  exact ⟨body, rest, unbroken, whole⟩

/-- What holds of data without a line feed, and of data with one if it holds of what follows
the first, holds of all data. -/
theorem data_induction {motive : Bytes → Prop} (unfinished : ∀ body, feed ∉ body → motive body)
    (finished : ∀ body rest, feed ∉ body → motive rest → motive (body ++ feed :: rest))
    (data : Bytes) : motive data := by
  by_cases broken : feed ∈ data
  · obtain ⟨body, rest, unbroken, whole⟩ := exists_first_line broken
    rw [whole]
    exact finished body rest unbroken (data_induction unfinished finished rest)
  · exact unfinished data broken
termination_by data.length
decreasing_by
  rw [whole, List.length_append, List.length_cons]
  omega

/-- The unfinished rest holds no line feed. -/
theorem feed_not_mem_unfinished (data : Bytes) : feed ∉ (cut data).2 := by
  induction data using data_induction with
  | unfinished body unbroken => rwa [cut_of_not_mem unbroken]
  | finished body rest unbroken ih => rwa [cut_append_feed unbroken]

/-- However data arrives, the lines of the first part are cut off, and its rest goes on into
the second part. -/
theorem cut_append (first second : Bytes) :
    cut (first ++ second) =
      ((cut first).1 ++ (cut ((cut first).2 ++ second)).1, (cut ((cut first).2 ++ second)).2) := by
  induction first using data_induction with
  | unfinished body unbroken => simp [cut_of_not_mem unbroken]
  | finished body rest unbroken ih =>
      rw [List.append_assoc, List.cons_append, cut_append_feed unbroken, cut_append_feed unbroken,
        ih]
      rfl

/-! ### All lines -/

theorem ofData_of_not_mem {body : Bytes} (unbroken : feed ∉ body) :
    ofData body = if body = [] then [] else [body] := by
  rw [ofData, cut_of_not_mem unbroken]
  cases body <;> rfl

theorem ofData_append_feed {body : Bytes} (unbroken : feed ∉ body) (rest : Bytes) :
    ofData (body ++ feed :: rest) = (body ++ [feed]) :: ofData rest := by
  simp only [ofData, cut_append_feed unbroken]
  cases pieces : cut rest with
  | mk lines unfinished => cases unfinished <;> rfl

theorem ofData_append (first second : Bytes) :
    ofData (first ++ second) = (cut first).1 ++ ofData ((cut first).2 ++ second) := by
  induction first using data_induction with
  | unfinished body unbroken => simp [cut_of_not_mem unbroken]
  | finished body rest unbroken ih =>
      rw [List.append_assoc, List.cons_append, ofData_append_feed unbroken,
        cut_append_feed unbroken, ih]
      rfl

/-! ### Decompositions -/

/-- A piece that ends with its first line feed. -/
def IsFinished (piece : Bytes) : Prop := ∃ body, feed ∉ body ∧ piece = body ++ [feed]

/-- Pieces that make up some data.  Each ends with its first line feed, only the last one may
lack it and is not empty then. -/
structure Decomposes (data : Bytes) (pieces : List Bytes) : Prop where
  whole : pieces.flatten = data
  finished : ∀ piece ∈ pieces.dropLast, IsFinished piece
  last : ∀ piece ∈ pieces.getLast?, IsFinished piece ∨ (piece ≠ [] ∧ feed ∉ piece)

theorem decomposes_ofData (data : Bytes) : Decomposes data (ofData data) := by
  induction data using data_induction with
  | unfinished body unbroken =>
      rw [ofData_of_not_mem unbroken]
      by_cases empty : body = []
      · subst empty
        exact ⟨rfl, by simp, by simp⟩
      · rw [if_neg empty]
        exact ⟨by simp, by simp, by simp [empty, unbroken]⟩
  | finished body rest unbroken ih =>
      rw [ofData_append_feed unbroken]
      have own : IsFinished (body ++ [feed]) := ⟨body, unbroken, rfl⟩
      refine ⟨by simp [ih.whole], ?_, ?_⟩
      · intro piece mem
        cases others : ofData rest with
        | nil => simp [others] at mem
        | cons next more =>
            rw [others, List.dropLast_cons_of_ne_nil (by simp), ← others] at mem
            rcases List.mem_cons.1 mem with rfl | later
            · exact own
            · exact ih.finished piece later
      · intro piece mem
        cases others : ofData rest with
        | nil =>
            obtain rfl : body ++ [feed] = piece := by simpa [others] using mem
            exact Or.inl own
        | cons next more =>
            rw [others, List.getLast?_cons_cons, ← others] at mem
            exact ih.last piece mem

theorem Decomposes.tail {piece : Bytes} {pieces : List Bytes} {data : Bytes}
    (decomposes : Decomposes data (piece :: pieces)) (nonempty : pieces ≠ []) :
    IsFinished piece ∧ Decomposes pieces.flatten pieces := by
  have inner : (piece :: pieces).dropLast = piece :: pieces.dropLast :=
    List.dropLast_cons_of_ne_nil nonempty
  have outer : (piece :: pieces).getLast? = pieces.getLast? := by
    cases pieces with
    | nil => exact absurd rfl nonempty
    | cons next more => exact List.getLast?_cons_cons
  refine ⟨decomposes.finished piece (by simp [inner]), rfl, ?_, ?_⟩
  · intro later mem
    exact decomposes.finished later (by simp [inner, mem])
  · intro later mem
    exact decomposes.last later (by rwa [outer])

/-- The first ones of some pieces are the pieces of a beginning of the data. -/
theorem Decomposes.append_left {data : Bytes} {first second : List Bytes}
    (decomposes : Decomposes data (first ++ second)) : Decomposes first.flatten first := by
  cases second with
  | nil =>
      rw [List.append_nil] at decomposes
      exact ⟨rfl, decomposes.finished, decomposes.last⟩
  | cons next more =>
      -- A piece that others follow is never the last one.
      have finished : ∀ piece ∈ first, IsFinished piece := by
        intro piece mem
        apply decomposes.finished
        rw [List.dropLast_append_of_ne_nil (List.cons_ne_nil next more)]
        exact List.mem_append_left _ mem
      refine ⟨rfl, ?_, ?_⟩
      · intro piece mem
        exact finished piece (List.dropLast_subset _ mem)
      · intro piece mem
        exact Or.inl (finished piece (List.mem_of_getLast? mem))

/-- The lines of some data are its only decomposition. -/
theorem decomposes_iff {data : Bytes} {pieces : List Bytes} :
    Decomposes data pieces ↔ pieces = ofData data := by
  constructor
  · intro decomposes
    induction pieces generalizing data with
    | nil =>
        obtain rfl : [] = data := decomposes.whole
        rfl
    | cons piece others ih =>
        by_cases alone : others = []
        · subst alone
          obtain rfl : piece = data := by simpa using decomposes.whole
          rcases decomposes.last piece (by simp) with ⟨body, unbroken, rfl⟩ | ⟨nonempty, unbroken⟩
          · rw [ofData_append_feed unbroken]
            rfl
          · rw [ofData_of_not_mem unbroken, if_neg nonempty]
        · obtain ⟨⟨body, unbroken, rfl⟩, later⟩ := decomposes.tail alone
          have rest := ih later
          have whole : data = body ++ feed :: others.flatten := by
            simpa [eq_comm] using decomposes.whole
          rw [whole, ofData_append_feed unbroken, ← rest]
  · rintro rfl
    exact decomposes_ofData data

/-- The first lines of some data are the lines of what they make up. -/
theorem ofData_flatten_of_append {data : Bytes} {first second : List Bytes}
    (whole : ofData data = first ++ second) : ofData first.flatten = first := by
  have decomposes := decomposes_ofData data
  rw [whole] at decomposes
  exact (decomposes_iff.1 decomposes.append_left).symm

/-! ### Up to the last line feed -/

/-- The data up to its last line feed, which is included. -/
def finishedPart (data : Bytes) : Bytes := data.rdropWhile (· ≠ feed)

theorem finishedPart_append_feed (body rest : Bytes) :
    finishedPart (body ++ feed :: rest) = body ++ feed :: finishedPart rest := by
  simp only [finishedPart, List.rdropWhile, List.reverse_append, List.reverse_cons,
    List.append_assoc, List.singleton_append, List.dropWhile_append]
  split
  · rename_i gone
    rw [List.isEmpty_iff.1 gone, List.dropWhile_cons_of_neg (by simp)]
    simp
  · simp

/-- The finished lines are what the data is made of up to its last line feed. -/
theorem finishedPart_eq_flatten (data : Bytes) : finishedPart data = (cut data).1.flatten := by
  induction data using data_induction with
  | unfinished body unbroken =>
      rw [cut_of_not_mem unbroken]
      apply List.rdropWhile_eq_nil_iff.2
      intro byte mem
      simpa using fun same : byte = feed => unbroken (same ▸ mem)
  | finished body rest unbroken ih =>
      rw [finishedPart_append_feed, cut_append_feed unbroken, ih]
      simp

/-- The lines up to the last line feed are the finished lines. -/
theorem ofData_finishedPart (data : Bytes) : ofData (finishedPart data) = (cut data).1 := by
  rw [finishedPart_eq_flatten]
  induction data using data_induction with
  | unfinished body unbroken => simp [cut_of_not_mem unbroken, ofData, cut]
  | finished body rest unbroken ih =>
      rw [cut_append_feed unbroken]
      have line : ((body ++ [feed]) :: (cut rest).1).flatten =
          body ++ feed :: (cut rest).1.flatten := by simp
      rw [line, ofData_append_feed unbroken, ih]

end Line

end ChainLaunchers
