/-
Module: ChainLaunchers.Yaml.Token.Scalar
Purpose: Reading the scalars of a YAML text: plain, quoted and block.
Trusted boundary: the grammar of scalars, which restates that of the YAML scanner in use.
Main exports:
  Yaml.Gap, Yaml.Scalar.plain, Yaml.Scalar.quoted, Yaml.Scalar.block
-/
import ChainLaunchers.Yaml.Cell

namespace ChainLaunchers.Yaml

/-!
### Gaps

Between two words of a scalar there is a gap: blanks on one line, or line breaks.  A single
line feed is folded into a space; further line breaks are kept in its place.
-/

/-- What lies between two words of a scalar. -/
inductive Gap where
  /-- Blanks on the same line. -/
  | within (blanks : List Char)
  /-- Line breaks: the first one, unless it was escaped, and the others.  Blanks after a line
  break do not count. -/
  | across (first : Option Char) (others : List Char)
deriving Repr, DecidableEq

namespace Gap

/-- No gap at all. -/
def none : Gap := .within []

/-- Whether the gap has a line break. -/
def isAcross : Gap → Bool
  | .within _ => false
  | .across _ _ => true

/-- Whether there is a gap. -/
def isSome : Gap → Bool
  | .within [] => false
  | _ => true

/-- The gap with one more blank. -/
def addBlank (gap : Gap) (blank : Char) : Gap :=
  match gap with
  | .within blanks => .within (blanks ++ [blank])
  | .across first others => .across first others

/-- The gap with one more line break. -/
def addBreak (gap : Gap) (lineBreak : Char) : Gap :=
  match gap with
  | .within _ => .across (some lineBreak) []
  | .across first others => .across first (others ++ [lineBreak])

/-- What the gap contributes to the text of the scalar. -/
def text : Gap → List Char
  | .within blanks => blanks
  | .across (some '\n') [] => [' ']
  | .across (some '\n') others => others
  | .across (some lineBreak) others => lineBreak :: others
  | .across Option.none others => others

end Gap

namespace Scalar

/-! ### Plain scalars -/

/-- The characters that end a plain scalar inside a flow collection. -/
def flowEnds : List Char := [',', '[', ']', '\x7b', '\x7d']

/-- What has been read of a scalar: its text, whether it was followed by a line break, and the
cells after it. -/
structure Reading where
  text : List Char
  acrossLines : Bool
  rest : List Cell
deriving Repr

/-- Reads a plain scalar on, after the given text and gap.  Outside of flow collections the
scalar ends at a line that is not indented by `indent` columns. -/
def plain (flow : Bool) (indent : Int) (text : List Char) (gap : Gap) :
    List Cell → Option Reading
  | [] => some ⟨text, gap.isAcross, []⟩
  | cell :: rest =>
    let stop := some ⟨text, gap.isAcross, cell :: rest⟩
    if cell.isBlank then
      if gap.isAcross && decide (cell.column < indent) && cell.character = '\t' then none
      else plain flow indent text (gap.addBlank cell.character) rest
    else if cell.isBreak then plain flow indent text (gap.addBreak cell.character) rest
    else if gap.isSome && ((!flow && decide (cell.column < indent)) || cell.character = '#' ||
        Cell.isDocumentIndicator (cell :: rest)) then stop
    else if flow && cell.character = ':' && Cell.startsWithAny ('?' :: flowEnds) rest then none
    else if cell.character = ':' && Cell.endsWord rest then stop
    else if flow && flowEnds.contains cell.character then stop
    else plain flow indent (text ++ gap.text ++ [cell.character]) Gap.none rest

/-! ### Quoted scalars -/

/-- The two kinds of quotes. -/
inductive Quote where
  /-- Only the quote itself is written in a special way, twice. -/
  | single
  /-- Characters can be written as escapes. -/
  | double
deriving Repr, DecidableEq

/-- The character of a quote. -/
def Quote.character : Quote → Char
  | .single => '\''
  | .double => '"'

/-- The character of an escape with a single letter. -/
def escaped? (letter : Char) : Option Char :=
  match letter with
  | '0' => some (Char.ofNat 0)
  | 'a' => some (Char.ofNat 7)
  | 'b' => some (Char.ofNat 8)
  | 't' => some '\t'
  | '\t' => some '\t'
  | 'n' => some '\n'
  | 'v' => some (Char.ofNat 11)
  | 'f' => some (Char.ofNat 12)
  | 'r' => some '\r'
  | 'e' => some (Char.ofNat 27)
  | ' ' => some ' '
  | '"' => some '"'
  | '/' => some '/'
  | '\\' => some '\\'
  | 'N' => some '\u0085'
  | '_' => some '\u00A0'
  | 'L' => some '\u2028'
  | 'P' => some '\u2029'
  | _ => none

/-- How many hexadecimal digits follow the letter of an escape. -/
def hexLength? (letter : Char) : Option Nat :=
  match letter with
  | 'x' => some 2
  | 'u' => some 4
  | 'U' => some 8
  | _ => none

/-- The value of a hexadecimal digit. -/
def hexValue? (digit : Char) : Option Nat :=
  if '0' ≤ digit ∧ digit ≤ '9' then some (digit.toNat - 48)
  else if 'a' ≤ digit ∧ digit ≤ 'f' then some (digit.toNat - 87)
  else if 'A' ≤ digit ∧ digit ≤ 'F' then some (digit.toNat - 55)
  else none

/-- The character of a code point; surrogates and too large numbers have none. -/
def ofCode? (code : Nat) : Option Char := if code.isValidChar then some (Char.ofNat code) else none

/-- Where in a quoted scalar reading has come to. -/
inductive Position where
  /-- Between characters, after a gap. -/
  | after (gap : Gap)
  /-- After the backslash of an escape. -/
  | backslash
  /-- Before the given number of hexadecimal digits of an escape, after a value. -/
  | hex (missing value : Nat)

/-- Reads a quoted scalar on, after the given text, up to its closing quote. -/
def quotedFrom (quote : Quote) (text : List Char) : Position → List Cell → Option Reading
  | _, [] => none
  | .backslash, cell :: rest =>
    if cell.isBreak then quotedFrom quote text (.after (.across none [])) rest
    else
      match hexLength? cell.character with
      | some length => quotedFrom quote text (.hex length 0) rest
      | none =>
        match escaped? cell.character with
        | some character => quotedFrom quote (text ++ [character]) (.after Gap.none) rest
        | none => none
  | .hex missing value, cell :: rest =>
    match hexValue? cell.character with
    | none => none
    | some digit =>
      if missing ≤ 1 then
        match ofCode? (16 * value + digit) with
        | some character => quotedFrom quote (text ++ [character]) (.after Gap.none) rest
        | none => none
      else quotedFrom quote text (.hex (missing - 1) (16 * value + digit)) rest
  | .after gap, [cell] =>
    if cell.character = quote.character then some ⟨text ++ gap.text, false, []⟩ else none
  | .after gap, cell :: next :: rest =>
    if cell.isBlank then quotedFrom quote text (.after (gap.addBlank cell.character)) (next :: rest)
    else if cell.isBreak then
      quotedFrom quote text (.after (gap.addBreak cell.character)) (next :: rest)
    else if Cell.isDocumentIndicator (cell :: next :: rest) then none
    else if cell.character = quote.character then
      if quote = .single && next.character = quote.character then
        quotedFrom quote (text ++ gap.text ++ [quote.character]) (.after Gap.none) rest
      else some ⟨text ++ gap.text, false, next :: rest⟩
    else if quote = .double && cell.character = '\\' then
      quotedFrom quote (text ++ gap.text) .backslash (next :: rest)
    else quotedFrom quote (text ++ gap.text ++ [cell.character]) (.after Gap.none) (next :: rest)

/-- Reads a quoted scalar whose opening quote has been read. -/
def quoted (quote : Quote) (cells : List Cell) : Option Reading :=
  quotedFrom quote [] (.after Gap.none) cells

/-! ### Block scalars -/

/-- What becomes of the line breaks at the end of a block scalar. -/
inductive Chomping where
  /-- All are dropped. -/
  | strip
  /-- One is kept. -/
  | clip
  /-- All are kept. -/
  | keep
deriving Repr, DecidableEq

/-- The chomping that an indicator asks for. -/
def chomping? (character : Char) : Option Chomping :=
  if character = '+' then some .keep else if character = '-' then some .strip else none

/-- An indentation indicator, a digit from 1 to 9. -/
def increment? (character : Char) : Option Nat :=
  if '1' ≤ character ∧ character ≤ '9' then some (character.toNat - 48) else none

/-- The first line of a block scalar, after its first character: the chomping, the indentation
indicator if there is one, and the cells of the next line on.  The two indicators may come in
either order. -/
def blockHeader? (cells : List Cell) : Option (Chomping × Option Nat × List Cell) := do
  let (chomping, increment, rest) : Option Chomping × Option Nat × List Cell :=
    match cells with
    | [] => (none, none, [])
    | first :: rest =>
      match chomping? first.character, increment? first.character with
      | some chomping, _ =>
        match rest with
        | [] => (some chomping, none, [])
        | second :: others =>
          match increment? second.character with
          | some increment => (some chomping, some increment, others)
          | none => (some chomping, none, rest)
      | none, some increment =>
        match rest with
        | [] => (none, some increment, [])
        | second :: others =>
          match chomping? second.character with
          | some chomping => (some chomping, some increment, others)
          | none => (none, some increment, rest)
      | none, none => (none, none, first :: rest)
  let following ← Cell.finishLine? rest
  return (chomping.getD .clip, increment, following)

/-- What has been read of a block scalar. -/
structure Block where
  text : List Char
  /-- The line break after the last line of the text. -/
  lineBreak : List Char
  /-- The line breaks of the empty lines after it. -/
  emptyLines : List Char
  /-- Whether the last line began with a blank. -/
  afterBlank : Bool

namespace Block

/-- Nothing read yet. -/
def empty : Block := ⟨[], [], [], false⟩

/-- The text once a new line begins.  In a folded scalar, the line break between two lines that
do not begin with a blank is a space, or nothing if empty lines follow it. -/
def startLine (block : Block) (literal beginsBlank : Bool) : Block :=
  let joint :=
    if !literal && block.lineBreak = ['\n'] && !block.afterBlank && !beginsBlank then
      if block.emptyLines = [] then [' '] else []
    else block.lineBreak
  ⟨block.text ++ joint ++ block.emptyLines, [], [], beginsBlank⟩

/-- The text of the finished scalar. -/
def finish (block : Block) (chomping : Chomping) : List Char :=
  match chomping with
  | .strip => block.text
  | .clip => block.text ++ block.lineBreak
  | .keep => block.text ++ block.lineBreak ++ block.emptyLines

end Block

/-- Where in a block scalar reading has come to. -/
inductive BlockPosition where
  /-- In the indentation of a line.  The width of the indentation is known or, as long as only
  empty lines have been read, the widest that has been seen. -/
  | indentation (known : Option Nat) (widest : Nat)
  /-- In the text of a line, with the width of the indentation. -/
  | line (indent : Nat)

/-- Reads a block scalar on.  `parent` is the indentation of the collection around it: an
indentation that is not given is the widest one before the first text, but at least one column
more than that of the collection. -/
def blockFrom (literal : Bool) (parent : Int) (chomping : Chomping) (block : Block) :
    BlockPosition → List Cell → Option Reading
  | _, [] => some ⟨block.finish chomping, false, []⟩
  | .line indent, cell :: rest =>
    if cell.isBreak then
      blockFrom literal parent chomping { block with lineBreak := [cell.character] }
        (.indentation (some indent) 0) rest
    else
      blockFrom literal parent chomping { block with text := block.text ++ [cell.character] }
        (.line indent) rest
  | .indentation known widest, cell :: rest =>
    let before := match known with
      | some indent => decide (cell.column < indent)
      | none => true
    if before && cell.character = ' ' then
      blockFrom literal parent chomping block (.indentation known widest) rest
    else if before && cell.character = '\t' then none
    else if cell.isBreak then
      blockFrom literal parent chomping
        { block with emptyLines := block.emptyLines ++ [cell.character] }
        (.indentation known (max widest cell.column)) rest
    else
      let indent := known.getD (max (max widest cell.column) (max (parent + 1) 1).toNat)
      if cell.column = indent then
        let started := block.startLine literal cell.isBlank
        blockFrom literal parent chomping
          { started with text := started.text ++ [cell.character] } (.line indent) rest
      else some ⟨block.finish chomping, false, cell :: rest⟩

/-- Reads a block scalar after its first character. -/
def block (literal : Bool) (parent : Int) (cells : List Cell) : Option Reading := do
  let (chomping, increment, rest) ← blockHeader? cells
  let known := increment.map fun width => ((max parent 0) + width).toNat
  blockFrom literal parent chomping Block.empty (.indentation known 0) rest

end Scalar

end ChainLaunchers.Yaml
