/-
Module: ChainLaunchers.Yaml.Cell
Purpose: The characters of a YAML text with their positions, and the character classes that
  YAML distinguishes.
Trusted boundary: the character classes and the counting of columns and offsets, which restate
  those of the YAML scanner that the settings are read with.
Main exports:
  Yaml.Cell, Yaml.Cell.ofText?, Yaml.Cell.isBlank, Yaml.Cell.isBreak, Yaml.Cell.isOrderMark,
  Yaml.Cell.endsWord
-/

namespace ChainLaunchers.Yaml

/-!
A text is read as cells: characters with their line and column.  The usual line breaks, which
are the line feed, the carriage return, both together and the next-line character, are all
read as one line feed.  The line and paragraph separators are line breaks too, but stay what
they are.
-/

/-- A character of a text with its position; lines and columns are counted from 0. -/
structure Cell where
  character : Char
  line : Nat
  /-- How many characters of its line stand before it. -/
  column : Nat
  /-- How many bytes of its line stand before it. -/
  offset : Nat
deriving Repr, DecidableEq, Inhabited

namespace Cell

/-! ### Character classes -/

/-- The characters that may stand in a text. -/
def isAllowed (character : Char) : Bool :=
  let code := character.toNat
  code = 0x09 || code = 0x0A || code = 0x0D || (0x20 ≤ code && code ≤ 0x7E) || code = 0x85 ||
    (0xA0 ≤ code && code ≤ 0xD7FF) || (0xE000 ≤ code && code ≤ 0xFFFD) || 0x10000 ≤ code

/-- Space and tab. -/
def isBlankCharacter (character : Char) : Bool := character = ' ' || character = '\t'

/-- The line breaks that cells can hold. -/
def isBreakCharacter (character : Char) : Bool :=
  character = '\n' || character = '\u2028' || character = '\u2029'

/-- The characters of anchor names, tag handles and directive names. -/
def isNameCharacter (character : Char) : Bool :=
  character.isAlphanum || character = '_' || character = '-'

/-- Whether a cell holds the byte order mark and begins a line. -/
def isOrderMark (cell : Cell) : Bool := cell.column = 0 && cell.character = '\uFEFF'

/-- Whether a cell holds a space or a tab. -/
def isBlank (cell : Cell) : Bool := isBlankCharacter cell.character

/-- Whether a cell holds a line break. -/
def isBreak (cell : Cell) : Bool := isBreakCharacter cell.character

/-- Whether a word ends before these cells: at a blank, at a line break and at the end. -/
def endsWord : List Cell → Bool
  | [] => true
  | cell :: _ => cell.isBlank || cell.isBreak

/-- Whether the first of these cells holds the given character. -/
def startsWith (character : Char) : List Cell → Bool
  | [] => false
  | cell :: _ => cell.character = character

/-- Whether the first of these cells holds one of the given characters. -/
def startsWithAny (characters : List Char) : List Cell → Bool
  | [] => false
  | cell :: _ => characters.contains cell.character

/-- Whether a line that is a document indicator starts here: three equal characters at the
beginning of a line, and then the end of the word. -/
def isIndicator (character : Char) : List Cell → Bool
  | first :: second :: third :: rest =>
    first.column = 0 && first.character = character && second.character = character &&
      third.character = character && endsWord rest
  | _ => false

/-- Whether a document starts or ends here. -/
def isDocumentIndicator (cells : List Cell) : Bool :=
  isIndicator '-' cells || isIndicator '.' cells

/-! ### Positions -/

/-- The cells of characters that start at the given position. -/
def number (line column offset : Nat) : List Char → List Cell
  | [] => []
  | '\r' :: '\n' :: rest => ⟨'\n', line, column, offset⟩ :: number (line + 1) 0 0 rest
  | character :: rest =>
    if character = '\r' || character = '\n' || character.toNat = 0x85 then
      ⟨'\n', line, column, offset⟩ :: number (line + 1) 0 0 rest
    else if isBreakCharacter character then
      ⟨character, line, column, offset⟩ :: number (line + 1) 0 0 rest
    else
      ⟨character, line, column, offset⟩ ::
        number line (column + 1) (offset + character.utf8Size) rest

/-- The cells of a text, unless it holds a character that is not allowed. -/
def ofText? (text : String) : Option (List Cell) :=
  if text.toList.all isAllowed then some (number 0 0 0 text.toList) else none

example : ofText? "é\r\n\uFEFFa" =
    some [⟨'é', 0, 0, 0⟩, ⟨'\n', 0, 1, 2⟩, ⟨'\uFEFF', 1, 0, 0⟩, ⟨'a', 1, 1, 3⟩] := by decide

/-! ### Skipping -/

/-- The cells after leading blanks. -/
def skipBlanks (cells : List Cell) : List Cell := cells.dropWhile isBlank

/-- The cells from the next line break on. -/
def skipLine (cells : List Cell) : List Cell := cells.dropWhile fun cell => !cell.isBreak

/-- The cells after the rest of a line, which may hold blanks and a comment only; with its
line break. -/
def finishLine? (cells : List Cell) : Option (List Cell) :=
  let ahead := skipBlanks cells
  let ahead := if startsWith '#' ahead then skipLine ahead else ahead
  match ahead with
  | [] => some []
  | cell :: rest => if cell.isBreak then some rest else none

/-- The leading characters of a class, and the cells after them. -/
def takeName (isMember : Char → Bool) (cells : List Cell) : List Char × List Cell :=
  ((cells.takeWhile fun cell => isMember cell.character).map Cell.character,
    cells.dropWhile fun cell => isMember cell.character)

end Cell

end ChainLaunchers.Yaml
