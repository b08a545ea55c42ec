/-
Module: ChainLaunchers.Line
Purpose: Cutting data into lines, and trimming a line.
Trusted boundary: none
Main exports:
  Line.cut, Line.ofData, Line.contentStart, Line.contentEnd, Line.trim
-/
import ChainLaunchers.Bytes

namespace ChainLaunchers

namespace Line

/-!
### Lines of data

A line ends with its first line feed, which belongs to it.  What follows the last line feed is
an unfinished line.
-/

/-- The line feed. -/
def feed : UInt8 := 10

/-- The finished lines of some data, and the unfinished rest. -/
def cut : Bytes → List Bytes × Bytes
  | [] => ([], [])
  | byte :: rest =>
    if byte = feed then ([byte] :: (cut rest).1, (cut rest).2)
    else
      match cut rest with
      | ([], unfinished) => ([], byte :: unfinished)
      | (line :: lines, unfinished) => ((byte :: line) :: lines, unfinished)

/-- All lines of some data; an unfinished one counts unless it is empty. -/
def ofData (data : Bytes) : List Bytes :=
  match cut data with
  | (lines, []) => lines
  | (lines, unfinished) => lines ++ [unfinished]

/-- Cutting loses nothing. -/
theorem flatten_cut (data : Bytes) : (cut data).1.flatten ++ (cut data).2 = data := by
  induction data with
  | nil => rfl
  | cons byte rest ih =>
    unfold cut
    split
    · simpa using ih
    · split <;> rename_i eq <;> simp_all

/-! ### Trimming

The two ends of what is kept are found independently of each other. -/

/-- How many blank bytes the line begins with. -/
def contentStart (line : Bytes) : Nat := line.findIdx fun byte => !Bytes.isBlank byte

/-- Where the last byte that is not blank ends; in a blank line there is none, and the content
ends where it starts. -/
def contentEnd (line : Bytes) : Nat :=
  match line.reverse.findIdx? fun byte => !Bytes.isBlank byte with
  | some blanks => line.length - blanks
  | none => contentStart line

/-- The line without the blank bytes at its two ends. -/
def trim (line : Bytes) : Bytes := (line.take (contentEnd line)).drop (contentStart line)

example : cut [1, 10, 10, 2] = ([[1, 10], [10]], [2]) := by decide
example : trim [32, 1, 32, 2, 13, 10] = [1, 32, 2] := by decide
example : trim [32, 0, 11] = [] := by decide

end Line

end ChainLaunchers
