/-
Module: ChainLaunchers.Bytes
Purpose: Byte strings, the common currency of lines, paths and file contents, and the six
  bytes that count as blank at the ends of a line.
Trusted boundary: none
Main exports:
  Bytes, Bytes.isWord, Bytes.isBlank, Bytes.toLower, Bytes.splitOn, Bytes.joinWith
-/

namespace ChainLaunchers

/-- A string of raw bytes.  Nothing is assumed about its encoding. -/
abbrev Bytes := List UInt8

namespace Bytes

/-! ### Byte classes -/

/-- The bytes a chain name is made of: ASCII digits, ASCII letters and the underscore. -/
def isWord (byte : UInt8) : Bool :=
  (48 ≤ byte && byte ≤ 57) || (65 ≤ byte && byte ≤ 90) || byte = 95 ||
    (97 ≤ byte && byte ≤ 122)

/-- The bytes dropped from both ends of a line: space, tab, line feed, carriage
return, null and vertical tab.  Form feed is not among them, nor is any byte of a non-ASCII
blank character. -/
def isBlank (byte : UInt8) : Bool :=
  byte = 32 || byte = 9 || byte = 10 || byte = 13 || byte = 0 || byte = 11

/-- ASCII capitals become small letters; every other byte stays. -/
def lowerByte (byte : UInt8) : UInt8 :=
  if 65 ≤ byte && byte ≤ 90 then byte + 32 else byte

/-- Lower-cases the ASCII letters of a byte string. -/
def toLower (text : Bytes) : Bytes := text.map lowerByte

/-! ### Cutting at a separator -/

/-- The stretches between the separators, in order: one more than there are separators. -/
def splitOn (separator : UInt8) : Bytes → List Bytes
  | [] => [[]]
  | byte :: rest =>
    if byte = separator then [] :: splitOn separator rest
    else
      match splitOn separator rest with
      | [] => [[byte]]
      | piece :: pieces => (byte :: piece) :: pieces

/-- Puts the separator between consecutive stretches. -/
def joinWith (separator : UInt8) : List Bytes → Bytes
  | [] => []
  | [piece] => piece
  | piece :: next :: pieces => piece ++ separator :: joinWith separator (next :: pieces)

theorem splitOn_ne_nil (separator : UInt8) (text : Bytes) : splitOn separator text ≠ [] := by
  induction text with
  | nil => simp [splitOn]
  | cons byte rest ih =>
    unfold splitOn
    split
    · simp
    · split <;> simp

/-- Joining undoes splitting: the separators are the only thing that a split removes. -/
theorem joinWith_splitOn (separator : UInt8) (text : Bytes) :
    joinWith separator (splitOn separator text) = text := by
  induction text with
  | nil => rfl
  | cons byte rest ih =>
    cases pieces : splitOn separator rest with
    | nil => exact absurd pieces (splitOn_ne_nil separator rest)
    | cons piece others =>
      rw [pieces] at ih
      by_cases isSeparator : byte = separator
      · simp [splitOn, isSeparator, pieces, joinWith, ih]
      · cases others with
        | nil => simpa [splitOn, isSeparator, pieces, joinWith] using ih
        | cons next more => simpa [splitOn, isSeparator, pieces, joinWith] using ih

end Bytes

end ChainLaunchers
