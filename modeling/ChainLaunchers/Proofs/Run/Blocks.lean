/-
Module: ChainLaunchers.Proofs.Run.Blocks
Purpose: How far data has been read that is read block by block, and in which block a line ends.
Trusted boundary: none
Main exports:
  Source.blockEnd, Source.blockEnd_length, Line.Reached, Line.Reached.next,
  Line.Reached.blockEnd_next, Line.Reached.last
-/
import ChainLaunchers.Proofs.Run.Reading

namespace ChainLaunchers

/-! ### Blocks of data -/

namespace Source

/-- The end of the block that holds the last byte before `stop`. -/
def blockEnd (data : Bytes) (size stop : Nat) : Nat :=
  min data.length (((stop - 1) / size + 1) * size)

theorem blockEnd_of_between {data : Bytes} {size stop k : Nat} (low : k * size < stop)
    (high : stop ≤ (k + 1) * size) :
    blockEnd data size stop = min data.length ((k + 1) * size) := by
  have number : (stop - 1) / size = k := by
    apply Nat.div_eq_of_lt_le
    · omega
    · omega
  rw [blockEnd, number]

/-- Data that has been read to its end has been read to the end of its last block. -/
theorem blockEnd_length (data : Bytes) {size : Nat} (positive : 0 < size) :
    blockEnd data size data.length = data.length := by
  have next : data.length - 1 < (data.length - 1) / size * size + size :=
    Nat.lt_div_mul_add positive
  rw [blockEnd, Nat.succ_mul]
  omega

theorem length_block (data : Bytes) (offset size : Nat) :
    (block data offset size).length = min size (data.length - offset) := by
  rw [block, List.length_take, List.length_drop]

end Source

namespace Line

/-- How far the lines of some data have been read block by block: those before `pending` have been
treated, and `pending` is the beginning of the next one, up to the offset. -/
structure Reached (data : Bytes) (size : Nat) (treated : List Bytes) (pending : Bytes)
    (offset : Nat) : Prop where
  blocks : ∃ k, offset = min data.length (k * size)
  unbroken : feed ∉ pending
  lines : ofData data = treated ++ ofData (pending ++ data.drop offset)
  length : treated.flatten.length + pending.length = offset

theorem reached_start (data : Bytes) (size : Nat) : Reached data size [] [] 0 where
  blocks := ⟨0, by simp⟩
  unbroken := List.not_mem_nil
  lines := rfl
  length := rfl

/-- A finished line ends with its line feed. -/
theorem feed_mem_of_mem_cut {data line : Bytes} (mem : line ∈ (cut data).1) : feed ∈ line := by
  induction data using data_induction with
  | unfinished body unbroken =>
      rw [cut_of_not_mem unbroken] at mem
      cases mem
  | finished body rest unbroken ih =>
      rw [cut_append_feed unbroken] at mem
      rcases List.mem_cons.1 mem with rfl | later
      · exact List.mem_append_right body List.mem_cons_self
      · exact ih later

section

variable {data pending : Bytes} {size offset : Nat} {treated : List Bytes}
  (reached : Reached data size treated pending offset)

include reached

/-- A block that is not empty begins where another one ends, and ends where it does or with the
data. -/
theorem Reached.next_block (nonempty : Source.block data offset size ≠ []) :
    ∃ k, offset = k * size ∧
      offset + (Source.block data offset size).length = min data.length ((k + 1) * size) := by
  have length := Source.length_block data offset size
  have positive := List.length_pos_iff.2 nonempty
  obtain ⟨k, start⟩ := reached.blocks
  refine ⟨k, ?_, ?_⟩
  · omega
  · rw [length, Nat.succ_mul]
    omega

/-- After the next block, the lines that are finished in it have been treated. -/
theorem Reached.next (nonempty : Source.block data offset size ≠ []) :
    Reached data size (treated ++ (cut (pending ++ Source.block data offset size)).1)
      (cut (pending ++ Source.block data offset size)).2
      (offset + (Source.block data offset size).length) := by
  obtain ⟨k, -, stop⟩ := reached.next_block nonempty
  constructor
  · exact ⟨k + 1, stop⟩
  · exact feed_not_mem_unfinished _
  · rw [reached.lines, ← Source.block_append_drop data offset size, ← List.append_assoc pending,
      ofData_append, List.append_assoc]
  · have whole := congrArg List.length (flatten_cut (pending ++ Source.block data offset size))
    simp only [List.length_append, List.flatten_append] at whole ⊢
    have length := reached.length
    omega

/-- A line that is finished in the next block ends in this block. -/
theorem Reached.blockEnd_next (nonempty : Source.block data offset size ≠ [])
    {earlier later : List Bytes} {line : Bytes}
    (finished : (cut (pending ++ Source.block data offset size)).1 = earlier ++ line :: later) :
    Source.blockEnd data size (treated ++ earlier ++ [line]).flatten.length =
      offset + (Source.block data offset size).length := by
  obtain ⟨k, start, stop⟩ := reached.next_block nonempty
  have length := reached.length
  have whole := flatten_cut (pending ++ Source.block data offset size)
  rw [finished, List.append_cons, List.flatten_append, List.append_assoc] at whole
  -- The line feed of the line is not in what has been read before.
  have beyond : pending.length < (earlier ++ [line]).flatten.length := by
    by_contra short
    have inside : (earlier ++ [line]).flatten <+: pending :=
      List.prefix_of_prefix_length_le ⟨_, whole⟩ (List.prefix_append _ _) (Nat.le_of_not_lt short)
    have own : line ∈ (cut (pending ++ Source.block data offset size)).1 := by
      rw [finished]
      exact List.mem_append_right earlier List.mem_cons_self
    have mem : feed ∈ (earlier ++ [line]).flatten :=
      List.mem_flatten.2 ⟨line, List.mem_append_right earlier List.mem_cons_self,
        feed_mem_of_mem_cut own⟩
    exact reached.unbroken (inside.subset mem)
  have within := congrArg List.length whole
  simp only [List.length_append] at within
  rw [stop, List.append_assoc, List.flatten_append, List.length_append]
  apply Source.blockEnd_of_between
  · omega
  · omega

/-- At the end of the data, the unfinished line is treated as well. -/
theorem Reached.last (positive : 0 < size) (atEnd : data.drop offset = [])
    (nonempty : pending ≠ []) :
    Reached data size (treated ++ [pending]) [] offset ∧
      Source.blockEnd data size (treated ++ [pending]).flatten.length = offset := by
  have lines := reached.lines
  have length := reached.length
  rw [atEnd, List.append_nil, ofData_of_not_mem reached.unbroken, if_neg nonempty] at lines
  have total : (treated ++ [pending]).flatten.length = offset := by
    simpa using length
  constructor
  · constructor
    · exact reached.blocks
    · exact List.not_mem_nil
    · rw [lines, atEnd]
      simp [ofData, cut]
    · rw [total]
      rfl
  · have complete : offset = data.length := by
      obtain ⟨k, start⟩ := reached.blocks
      have past := List.drop_eq_nil_iff.1 atEnd
      omega
    rw [total, complete]
    exact Source.blockEnd_length data positive

end

end Line

end ChainLaunchers
