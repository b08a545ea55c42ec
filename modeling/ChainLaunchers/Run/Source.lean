/-
Module: ChainLaunchers.Run.Source
Purpose: Where the lines of a run come from, and how far a source can be read.
Trusted boundary: the reading in blocks, which restates that of a buffered reader over a file.
Main exports:
  Source, Source.read, Source.extent, Source.read_extent, Tree.openFile
-/
import ChainLaunchers.Tree.Walk

namespace ChainLaunchers

/-!
A source is read block by block, from an offset that only grows.  A source in memory never
changes.  A file of the tree is read as it is at the moment of reading: what has been written
to it since it was opened is read too, where it lies beyond the offset.
-/

/-- Where lines come from. -/
inductive Source where
  /-- Some data.  Instead of simply ending, it may fail where the data ends. -/
  | memory (data : Bytes) (failure : Option IoError)
  /-- What stands at a place of the tree, read up to a last offset. -/
  | file (place : Place) (limit : Nat)
deriving Repr, DecidableEq

namespace Source

/-- The last offset of a file: offsets are signed numbers of 64 bits. -/
def lastOffset : Nat := Nat.pow 2 63 - 1

/-- At most `size` bytes of `data`, from an offset on. -/
def block (data : Bytes) (offset size : Nat) : Bytes := (data.drop offset).take size

/-- The next block of a source, which is empty at the end. -/
def read (source : Source) (tree : Tree) (offset size : Nat) : Except IoError Bytes :=
  match source with
  | .memory data failure =>
    match failure with
    | some cause => if offset < data.length then .ok (block data offset size) else .error cause
    | none => .ok (block data offset size)
  | .file place limit =>
    match tree.node? place with
    | some (.file content) => .ok (block (content.take limit) offset size)
    | some .directory => .error .isDirectory
    | none => .error .notFound

/-- No byte is ever read beyond this offset. -/
def extent : Source → Nat
  | .memory data _ => data.length
  | .file _ limit => limit

theorem length_block_le (data : Bytes) (offset size : Nat)
    (nonempty : block data offset size ≠ []) :
    offset + (block data offset size).length ≤ data.length := by
  have positive := List.length_pos_iff.2 nonempty
  simp only [block, List.length_take, List.length_drop] at positive ⊢
  omega

/-- A block that is not empty ends within the extent of its source. -/
theorem read_extent {source : Source} {tree : Tree} {offset size : Nat} {bytes : Bytes}
    (read : source.read tree offset size = .ok bytes) (nonempty : bytes ≠ []) :
    offset + bytes.length ≤ source.extent := by
  cases source with
  | memory data failure =>
    have same : bytes = block data offset size := by
      cases failure with
      | none => simpa [Source.read, eq_comm] using read
      | some cause =>
        simp only [Source.read] at read
        split at read
        · simpa [eq_comm] using read
        · simp at read
    subst same
    exact length_block_le data offset size nonempty
  | file place limit =>
    simp only [Source.read] at read
    split at read
    · rename_i content _
      obtain rfl : block (content.take limit) offset size = bytes := by simpa using read
      have within := length_block_le (content.take limit) offset size nonempty
      simp only [List.length_take] at within
      exact Nat.le_trans within (Nat.min_le_left _ _)
    · simp at read
    · simp at read

end Source

/-- Opens what a path leads to for reading.  A directory can be opened, but not read.  A file
that is longer than the last offset when it is opened is read to that length. -/
def Tree.openFile (tree : Tree) (path : Path) : Except IoError Source := do
  let place ← tree.locate path
  match tree.node? place with
  | some (.file content) => .ok (.file place (max content.length Source.lastOffset))
  | _ => .ok (.file place Source.lastOffset)

end ChainLaunchers
