/-
Module: ChainLaunchers.Yaml.Token.Property
Purpose: Reading anchors, aliases, tags and directives of a YAML text.
Trusted boundary: the grammar of properties and directives, which restates that of the YAML
  scanner in use.
Main exports:
  Yaml.Property.name?, Yaml.Property.tag?, Yaml.Property.directive?
-/
import ChainLaunchers.Yaml.Cell
import ChainLaunchers.Yaml.Token

namespace ChainLaunchers.Yaml

namespace Property

/-! ### Anchors and aliases -/

/-- Reads the name of an anchor or an alias, after its first character. -/
def name? (cells : List Cell) : Option (List Char × List Cell) :=
  match Cell.takeName Cell.isNameCharacter cells with
  | ([], _) => none
  | (name, rest) =>
    if Cell.endsWord rest || Cell.startsWithAny ['?', ':', ',', ']', '\x7d', '%', '@', '\x60'] rest
    then some (name, rest)
    else none

/-! ### Tags -/

/-- The characters of a tag besides names and escapes. -/
def tagPunctuation : List Char :=
  [';', '/', '?', ':', '@', '&', '=', '+', '$', '.', '!', '~', '*', '\'', '(', ')']

/-- The characters that may stand in a tag only where nothing else can end it. -/
def tagBrackets : List Char := [',', '[', ']']

/-- The value of a hexadecimal digit. -/
def digit? (character : Char) : Option Nat :=
  if '0' ≤ character ∧ character ≤ '9' then some (character.toNat - 48)
  else if 'a' ≤ character ∧ character ≤ 'f' then some (character.toNat - 87)
  else if 'A' ≤ character ∧ character ≤ 'F' then some (character.toNat - 55)
  else none

/-- How many more bytes belong to the character that begins with this byte. -/
def following? (byte : Nat) : Option Nat :=
  if byte < 128 then some 0
  else if 192 ≤ byte ∧ byte < 224 then some 1
  else if 224 ≤ byte ∧ byte < 240 then some 2
  else if 240 ≤ byte ∧ byte < 248 then some 3
  else none

/-- Reads the text of a tag on, as bytes.  `missing` bytes of a character that is written in
escapes are still to come. -/
def tagText (brackets : Bool) (text : List UInt8) (missing : Nat) :
    List Cell → Option (List UInt8 × List Cell)
  | [] => if missing = 0 then some (text, []) else none
  | cell :: rest =>
    if cell.character = '%' then
      match rest with
      | high :: low :: others =>
        match digit? high.character, digit? low.character with
        | some upper, some lower =>
          let byte := 16 * upper + lower
          if missing = 0 then
            match following? byte with
            | some count => tagText brackets (text ++ [UInt8.ofNat byte]) count others
            | none => none
          else if 128 ≤ byte ∧ byte < 192 then
            tagText brackets (text ++ [UInt8.ofNat byte]) (missing - 1) others
          else none
        | _, _ => none
      | _ => none
    else if missing ≠ 0 then none
    else if Cell.isNameCharacter cell.character || tagPunctuation.contains cell.character ||
        (brackets && tagBrackets.contains cell.character) then
      tagText brackets (text ++ String.utf8EncodeChar cell.character) 0 rest
    else some (text, cell :: rest)

/-- Reads the text of a tag, at least one character. -/
def tagSuffix? (brackets : Bool) (cells : List Cell) : Option (Tag × List Cell) :=
  match tagText brackets [] 0 cells with
  | some (byte :: text, rest) => some (Tag.ofWritten (byte :: text), rest)
  | _ => none

/-- Whether a tag may end here. -/
def endsTag (flow : Bool) (cells : List Cell) : Bool :=
  Cell.endsWord cells || (flow && Cell.startsWith ',' cells)

/-- A tag with its handle and the cells after it, if it may end there. -/
def closed? (flow : Bool) (handle : List Char) (suffix : Tag) (rest : List Cell) :
    Option (Token × List Cell) :=
  if endsTag flow rest then some (.tag handle suffix, rest) else none

/-- Reads a tag after its exclamation mark.  It is written in full between angle brackets, or
with a handle that ends with a second exclamation mark, or with the primary handle.  An
exclamation mark alone is a tag of its own. -/
def tag? (flow : Bool) (cells : List Cell) : Option (Token × List Cell) :=
  if Cell.startsWith '<' cells then
    match tagSuffix? true (cells.drop 1) with
    | some (suffix, rest) =>
      if Cell.startsWith '>' rest then closed? flow [] suffix (rest.drop 1) else none
    | none => none
  else
    match Cell.takeName Cell.isNameCharacter cells with
    | (name, rest) =>
      if Cell.startsWith '!' rest then
        match tagSuffix? false (rest.drop 1) with
        | some (suffix, after) => closed? flow ('!' :: name ++ ['!']) suffix after
        | none => none
      else
        match tagText false (Utf8.encode name) 0 rest with
        | some (written, after) =>
          match Tag.ofWritten written with
          | [] => closed? flow [] Tag.mark after
          | suffix => closed? flow ['!'] suffix after
        | none => none

/-! ### Directives -/

/-- Reads a number of at most nine digits. -/
def number? (cells : List Cell) : Option (Nat × List Cell) :=
  match Cell.takeName Char.isDigit cells with
  | (digits, rest) =>
    if digits = [] || 9 < digits.length then none
    else some (digits.foldl (fun value digit => 10 * value + (digit.toNat - 48)) 0, rest)

/-- Reads the rest of the directive that names a version. -/
def version? (cells : List Cell) : Option (Token × List Cell) := do
  let (major, rest) ← number? (Cell.skipBlanks cells)
  guard (Cell.startsWith '.' rest)
  let (minor, rest) ← number? (rest.drop 1)
  return (.version major minor, rest)

/-- Reads the rest of the directive that explains a tag handle. -/
def tagHandle? (cells : List Cell) : Option (Token × List Cell) := do
  let start := Cell.skipBlanks cells
  guard (Cell.startsWith '!' start)
  let (name, rest) := Cell.takeName Cell.isNameCharacter (start.drop 1)
  let (handle, rest) ←
    if Cell.startsWith '!' rest then some ('!' :: name ++ ['!'], rest.drop 1)
    else if name = [] then some (['!'], rest)
    else none
  guard (rest.head?.any Cell.isBlank)
  let (meaning, rest) ← tagSuffix? true (Cell.skipBlanks rest)
  guard (Cell.endsWord rest)
  return (.tagHandle handle meaning, rest)

/-- Reads a directive after its percent sign, with the rest of its line. -/
def directive? (cells : List Cell) : Option (Token × List Cell) := do
  let (name, rest) := Cell.takeName Cell.isNameCharacter cells
  guard (Cell.endsWord rest)
  let (token, rest) ←
    if name = ['Y', 'A', 'M', 'L'] then version? rest
    else if name = ['T', 'A', 'G'] then tagHandle? rest
    else none
  let following ← Cell.finishLine? rest
  return (token, following)

end Property

end ChainLaunchers.Yaml
