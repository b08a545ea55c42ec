/-
Module: ChainLaunchers.Proofs.Text.Ascii
Purpose: ASCII bytes inside encoded text stand for themselves, and byte strings that are equal
  but for the case of ASCII letters.
Trusted boundary: none
Main exports:
  Utf8.exists_char_of_mem, Bytes.SameLetter, Bytes.EqIgnoringCase, Bytes.toLower_eq_iff,
  Bytes.isWord_lowerByte
-/
import ChainLaunchers.Text.Utf8
import Mathlib.Data.List.Forall2

namespace ChainLaunchers

namespace Utf8

/-! ### ASCII bytes in text -/

/-- A byte below 128 is never part of a longer encoding. -/
theorem toNat_eq_of_mem_encodeChar {character : Char} {byte : UInt8}
    (mem : byte ∈ String.utf8EncodeChar character) (ascii : byte.toNat < 128) :
    character.toNat = byte.toNat := by
  unfold String.utf8EncodeChar at mem
  simp only at mem
  -- Only in the shortest of the four encodings is there a byte without the high bit.
  split at mem
  · rename_i small
    obtain rfl := List.mem_singleton.1 mem
    rw [UInt8.toNat_ofNat']
    exact (Nat.mod_eq_of_lt (Nat.lt_of_le_of_lt small (by decide))).symm
  · split at mem
    · simp only [List.mem_cons, List.not_mem_nil, or_false] at mem
      rcases mem with rfl | rfl <;> simp at ascii <;> omega
    · split at mem
      · simp only [List.mem_cons, List.not_mem_nil, or_false] at mem
        rcases mem with rfl | rfl | rfl <;> simp at ascii <;> omega
      · simp only [List.mem_cons, List.not_mem_nil, or_false] at mem
        rcases mem with rfl | rfl | rfl | rfl <;> simp at ascii <;> omega

/-- An ASCII byte in the encoding of a text is the encoding of a character of it. -/
theorem exists_char_of_mem {text : String} {byte : UInt8} (mem : byte ∈ ofString text)
    (ascii : byte.toNat < 128) : ∃ character ∈ text.toList, character.toNat = byte.toNat := by
  obtain ⟨character, present, inside⟩ := List.mem_flatMap.1 mem
  exact ⟨character, present, toNat_eq_of_mem_encodeChar inside ascii⟩

end Utf8

namespace Bytes

/-! ### Bytes as numbers -/

theorem isWord_iff (byte : UInt8) :
    isWord byte = true ↔
      (48 ≤ byte.toNat ∧ byte.toNat ≤ 57) ∨ (65 ≤ byte.toNat ∧ byte.toNat ≤ 90) ∨
        byte.toNat = 95 ∨ (97 ≤ byte.toNat ∧ byte.toNat ≤ 122) := by
  simp only [isWord, Bool.or_eq_true, Bool.and_eq_true, decide_eq_true_eq, UInt8.le_iff_toNat_le,
    ← UInt8.toNat_inj, UInt8.reduceToNat, or_assoc]

theorem toNat_lowerByte (byte : UInt8) :
    (lowerByte byte).toNat =
      if 65 ≤ byte.toNat ∧ byte.toNat ≤ 90 then byte.toNat + 32 else byte.toNat := by
  unfold lowerByte
  simp only [Bool.and_eq_true, decide_eq_true_eq, UInt8.le_iff_toNat_le, UInt8.reduceToNat]
  split
  · rw [UInt8.toNat_add]
    simp only [UInt8.reduceToNat]
    omega
  · rfl

/-! ### Small letters -/

/-- Whether a byte is an ASCII capital. -/
def isCapital (byte : UInt8) : Bool := 65 ≤ byte && byte ≤ 90

/-- Two bytes that are equal or the two cases of one ASCII letter. -/
def SameLetter (first second : UInt8) : Prop :=
  first = second ∨ (isCapital first = true ∧ second = first + 32) ∨
    (isCapital second = true ∧ first = second + 32)

/-- Two byte strings that differ in the case of ASCII letters at most. -/
def EqIgnoringCase (first second : Bytes) : Prop := List.Forall₂ SameLetter first second

theorem lowerByte_eq_iff (first second : UInt8) :
    lowerByte first = lowerByte second ↔ SameLetter first second := by
  have := first.toNat_lt
  have := second.toNat_lt
  rw [← UInt8.toNat_inj, toNat_lowerByte, toNat_lowerByte]
  simp only [SameLetter, isCapital, Bool.and_eq_true, decide_eq_true_eq, UInt8.le_iff_toNat_le,
    ← UInt8.toNat_inj, UInt8.toNat_add, UInt8.reduceToNat]
  split <;> split <;> omega

/-- Small letters are equal exactly if the letters are equal but for their case. -/
theorem toLower_eq_iff (first second : Bytes) :
    toLower first = toLower second ↔ EqIgnoringCase first second := by
  rw [toLower, toLower, ← List.forall₂_eq_eq_eq, List.forall₂_map_left_iff,
    List.forall₂_map_right_iff]
  simp only [lowerByte_eq_iff]
  rfl

/-- A word byte in small letters is a word byte. -/
theorem isWord_lowerByte {byte : UInt8} (word : isWord byte = true) :
    isWord (lowerByte byte) = true := by
  rw [isWord_iff] at word ⊢
  rw [toNat_lowerByte]
  split <;> omega

end Bytes

end ChainLaunchers
