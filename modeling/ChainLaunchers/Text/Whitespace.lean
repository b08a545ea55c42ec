/-
Module: ChainLaunchers.Text.Whitespace
Purpose: White space, as the characters with that Unicode property.
Trusted boundary: the table, which restates a property of the Unicode character database.
Main exports:
  Whitespace.ranges, Whitespace.isBlank, Whitespace.isBlankText
-/

namespace ChainLaunchers

namespace Whitespace

/-- The code points that are white space.  Both ends of a range belong to it. -/
def ranges : List (Nat × Nat) :=
  [(0x9, 0xD), (0x20, 0x20), (0x85, 0x85), (0xA0, 0xA0), (0x1680, 0x1680), (0x2000, 0x200A),
    (0x2028, 0x2029), (0x202F, 0x202F), (0x205F, 0x205F), (0x3000, 0x3000)]

/-- Whether a character is white space. -/
def isBlank (character : Char) : Bool :=
  ranges.any fun (low, high) => low ≤ character.toNat && character.toNat ≤ high

/-- Whether a text holds nothing but white space. -/
def isBlankText (text : String) : Bool := text.toList.all isBlank

/-- The ASCII white space of the core library is part of it. -/
theorem isBlank_of_isWhitespace {character : Char} (white : character.isWhitespace = true) :
    isBlank character = true := by
  simp only [Char.isWhitespace, Bool.or_eq_true, decide_eq_true_eq] at white
  rcases white with ((rfl | rfl) | rfl) | rfl <;> decide

example : (ranges.map fun (low, high) => high + 1 - low).sum = 25 := by decide

end Whitespace

end ChainLaunchers
