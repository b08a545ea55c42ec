/-
Module: ChainLaunchers.Yaml.Token.Stream
Purpose: The tokens of a whole YAML text, with those that follow from indentation and from
  keys without a mark.
Trusted boundary: the rules of indentation and of simple keys, which restate those of the YAML
  scanner in use.
Main exports:
  Yaml.Candidate, Yaml.Stream, Yaml.Token.ofText?
-/
import ChainLaunchers.Yaml.Token.Scalar
import ChainLaunchers.Yaml.Token.Property

namespace ChainLaunchers.Yaml

/-!
Two kinds of tokens are not written where they belong.  A block collection opens where its
first entry is indented more than the collection around it, and closes before a line that is
indented less.  A key without a question mark is only known for one when its colon comes: its
token, and that of a block mapping that it opens, are put in front of what has been read since.
Such a key lies on one line and ends within 1024 bytes.
-/

/-- A place where a key without a mark may have begun. -/
structure Candidate where
  /-- Whether nothing but a key may begin there. -/
  required : Bool
  /-- How many tokens come before it. -/
  position : Nat
  line : Nat
  column : Nat
  /-- How many bytes of its line stand before it. -/
  offset : Nat
deriving Repr, DecidableEq

/-- How many bytes a key without a mark has at most. -/
def Candidate.limit : Nat := 1024

/-- A candidate as it is seen from further on: given up if a key would not have ended in time,
unless a key is required there. -/
def Candidate.seenFrom? (cells : List Cell) : Option Candidate → Option (Option Candidate)
  | none => some none
  | some candidate =>
    let stale := match cells with
      | [] => true
      | cell :: _ =>
        candidate.line < cell.line || candidate.offset + Candidate.limit < cell.offset
    if stale then (if candidate.required then none else some none) else some (some candidate)

/-- The state of reading a text. -/
structure Stream where
  /-- What is still to be read. -/
  rest : List Cell
  /-- The tokens that have been read, the last one first. -/
  tokens : List Token
  /-- The indentation of the innermost block collection, or -1 outside of all. -/
  indent : Int
  /-- The indentations around it, the innermost first. -/
  outer : List Int
  /-- The candidates in the flow collections that are open, the innermost first. -/
  flow : List (Option Candidate)
  /-- The candidate outside of all flow collections. -/
  block : Option Candidate
  /-- Whether a key without a mark may begin here. -/
  keyAllowed : Bool

namespace Stream

/-- Before the first character of a text. -/
def start (cells : List Cell) : Stream := ⟨cells, [], -1, [], [], none, true⟩

/-- Whether a flow collection is open. -/
def inFlow (stream : Stream) : Bool := !stream.flow.isEmpty

/-- The column of the next character. -/
def column (stream : Stream) : Nat :=
  match stream.rest with
  | [] => 0
  | cell :: _ => cell.column

/-- One more token. -/
def push (stream : Stream) (token : Token) : Stream :=
  { stream with tokens := token :: stream.tokens }

/-- Puts a token after the first `position` tokens. -/
def insert (stream : Stream) (position : Nat) (token : Token) : Stream :=
  let kept := stream.tokens.length - position
  { stream with tokens := stream.tokens.take kept ++ token :: stream.tokens.drop kept }

/-! ### Candidates -/

/-- The candidate of the innermost open collection. -/
def candidate (stream : Stream) : Option Candidate :=
  match stream.flow with
  | [] => stream.block
  | innermost :: _ => innermost

/-- Sets the candidate of the innermost open collection. -/
def setCandidate (stream : Stream) (candidate : Option Candidate) : Stream :=
  match stream.flow with
  | [] => { stream with block := candidate }
  | _ :: others => { stream with flow := candidate :: others }

/-- Gives the candidate up, unless a key is required there. -/
def dropCandidate? (stream : Stream) : Option Stream :=
  match stream.candidate with
  | some candidate => if candidate.required then none else some (stream.setCandidate none)
  | none => some stream

/-- Makes this place a candidate if a key may begin here. -/
def saveCandidate? (stream : Stream) : Option Stream :=
  match stream.rest with
  | [] => some stream
  | cell :: _ =>
    if stream.keyAllowed then
      stream.dropCandidate?.map fun dropped =>
        dropped.setCandidate (some
          ⟨!stream.inFlow && stream.indent = cell.column, stream.tokens.length, cell.line,
            cell.column, cell.offset⟩)
    else some stream

/-- Gives up the candidates that have become too old. -/
def dropStale? (stream : Stream) : Option Stream := do
  let block ← Candidate.seenFrom? stream.rest stream.block
  let flow ← stream.flow.mapM (Candidate.seenFrom? stream.rest)
  return { stream with block, flow }

/-! ### Indentation -/

/-- Opens a block collection if the column lies beyond the indentation.  The token that opens
it comes after `position` tokens. -/
def openBlock (stream : Stream) (column position : Nat) (token : Token) : Stream :=
  if !stream.inFlow && decide (stream.indent < column) then
    { stream.insert position token with
      indent := column, outer := stream.indent :: stream.outer }
  else stream

/-- Closes the block collections that are indented beyond the column. -/
def closeBlocks (column : Int) : (indent : Int) → (outer : List Int) → (tokens : List Token) →
    Int × List Int × List Token
  | indent, [], tokens => (indent, [], tokens)
  | indent, next :: outer, tokens =>
    if column < indent then closeBlocks column next outer (.blockEnd :: tokens)
    else (indent, next :: outer, tokens)

/-- Closes the block collections that are indented beyond the column, unless a flow collection
is open. -/
def unindent (stream : Stream) (column : Int) : Stream :=
  if stream.inFlow then stream
  else
    match closeBlocks column stream.indent stream.outer stream.tokens with
    | (indent, outer, tokens) => { stream with indent, outer, tokens }

/-! ### Single tokens -/

/-- Skips to the next token: blanks, comments, line breaks, and a byte order mark at the beginning
of a line.  After a line break outside of flow collections a key may begin, and a tab may not
stand where a key may begin. -/
def skip (flow : Bool) : (comment keyAllowed : Bool) → List Cell → Bool × List Cell
  | _, keyAllowed, [] => (keyAllowed, [])
  | comment, keyAllowed, cell :: rest =>
    if cell.isBreak then skip flow false (keyAllowed || !flow) rest
    else if comment then skip flow true keyAllowed rest
    else if cell.isOrderMark then skip flow false keyAllowed rest
    else if cell.character = ' ' || (cell.character = '\t' && (flow || !keyAllowed)) then
      skip flow false keyAllowed rest
    else if cell.character = '#' then skip flow true keyAllowed rest
    else (keyAllowed, cell :: rest)

/-- Reads a directive or a document indicator, which end all block collections. -/
def marker? (stream : Stream) (read : Stream → Option (Token × List Cell)) : Option Stream := do
  let closed ← (stream.unindent (-1)).dropCandidate?
  let (token, rest) ← read closed
  return { closed.push token with rest, keyAllowed := false }

/-- Reads the opening bracket of a flow collection. -/
def openFlow? (stream : Stream) (token : Token) : Option Stream := do
  let saved ← stream.saveCandidate?
  return { saved.push token with
    rest := stream.rest.drop 1, flow := none :: saved.flow, keyAllowed := true }

/-- Reads the closing bracket of a flow collection. -/
def closeFlow? (stream : Stream) (token : Token) : Option Stream := do
  let dropped ← stream.dropCandidate?
  return { dropped.push token with
    rest := stream.rest.drop 1, flow := dropped.flow.drop 1, keyAllowed := false }

/-- Reads the comma between entries of a flow collection. -/
def flowEntry? (stream : Stream) : Option Stream := do
  let dropped ← stream.dropCandidate?
  return { dropped.push .flowEntry with rest := stream.rest.drop 1, keyAllowed := true }

/-- Reads the dash of an entry of a block sequence. -/
def blockEntry? (stream : Stream) : Option Stream := do
  guard (stream.inFlow || stream.keyAllowed)
  let opened := stream.openBlock stream.column stream.tokens.length .blockSequenceStart
  let dropped ← opened.dropCandidate?
  return { dropped.push .blockEntry with rest := stream.rest.drop 1, keyAllowed := true }

/-- Reads the question mark of a key. -/
def markedKey? (stream : Stream) : Option Stream := do
  guard (stream.inFlow || stream.keyAllowed)
  let opened := stream.openBlock stream.column stream.tokens.length .blockMappingStart
  let dropped ← opened.dropCandidate?
  return { dropped.push .key with rest := stream.rest.drop 1, keyAllowed := !stream.inFlow }

/-- Reads the colon of a value.  A candidate becomes a key. -/
def value? (stream : Stream) : Option Stream :=
  match stream.candidate with
  | some candidate =>
    let keyed := stream.insert candidate.position .key
    let opened := keyed.openBlock candidate.column candidate.position .blockMappingStart
    some { (opened.setCandidate none).push .value with
      rest := stream.rest.drop 1, keyAllowed := false }
  | none =>
    if stream.inFlow || stream.keyAllowed then
      let opened := stream.openBlock stream.column stream.tokens.length .blockMappingStart
      some { opened.push .value with
        rest := stream.rest.drop 1, keyAllowed := !stream.inFlow }
    else none

/-- Reads an anchor, an alias or a tag, with which a key may begin. -/
def property? (stream : Stream) (read : List Cell → Option (Token × List Cell)) :
    Option Stream := do
  let saved ← stream.saveCandidate?
  let (token, rest) ← read (stream.rest.drop 1)
  return { saved.push token with rest, keyAllowed := false }

/-- Reads a block scalar. -/
def blockScalar? (stream : Stream) (literal : Bool) : Option Stream := do
  let dropped ← stream.dropCandidate?
  let read ← Scalar.block literal stream.indent (stream.rest.drop 1)
  return { dropped.push (.scalar .marked read.text) with rest := read.rest, keyAllowed := true }

/-- Reads a quoted scalar, with which a key may begin. -/
def quotedScalar? (stream : Stream) (quote : Scalar.Quote) : Option Stream := do
  let saved ← stream.saveCandidate?
  let read ← Scalar.quoted quote (stream.rest.drop 1)
  return { saved.push (.scalar .marked read.text) with rest := read.rest, keyAllowed := false }

/-- Reads a plain scalar, with which a key may begin.  If line breaks follow it, a key may
begin after them. -/
def plainScalar? (stream : Stream) : Option Stream := do
  let saved ← stream.saveCandidate?
  let read ← Scalar.plain stream.inFlow (stream.indent + 1) [] Gap.none stream.rest
  return { saved.push (.scalar .plain read.text) with
    rest := read.rest, keyAllowed := read.acrossLines }

/-- The characters that do not begin a plain scalar by themselves. -/
def indicators : List Char :=
  ['-', '?', ':', ',', '[', ']', '\x7b', '\x7d', '#', '&', '*', '!', '|', '>', '\'', '"', '%', '@',
    '\x60']

/-- Whether a plain scalar begins with this character. -/
def beginsPlain (flow : Bool) (cell : Cell) (rest : List Cell) : Bool :=
  !(cell.isBlank || cell.isBreak || indicators.contains cell.character) ||
    (cell.character = '-' && !rest.head?.any Cell.isBlank) ||
    (!flow && (cell.character = '?' || cell.character = ':') && !Cell.endsWord rest)

/-- Reads the token that begins with the given cell. -/
def token? (stream : Stream) (cell : Cell) (rest : List Cell) : Option Stream :=
  let character := cell.character
  if cell.column = 0 && character = '%' then
    stream.marker? fun _ => Property.directive? rest
  else if Cell.isIndicator '-' (cell :: rest) then
    stream.marker? fun _ => some (.documentStart, rest.drop 2)
  else if Cell.isIndicator '.' (cell :: rest) then
    stream.marker? fun _ => some (.documentEnd, rest.drop 2)
  else if character = '[' then stream.openFlow? .flowSequenceStart
  else if character = '\x7b' then stream.openFlow? .flowMappingStart
  else if character = ']' then stream.closeFlow? .flowSequenceEnd
  else if character = '\x7d' then stream.closeFlow? .flowMappingEnd
  else if character = ',' then stream.flowEntry?
  else if character = '-' && Cell.endsWord rest then stream.blockEntry?
  else if character = '?' && (stream.inFlow || Cell.endsWord rest) then stream.markedKey?
  else if character = ':' && (stream.inFlow || Cell.endsWord rest) then stream.value?
  else if character = '*' then
    stream.property? fun cells =>
      (Property.name? cells).map fun (name, after) => (.alias name, after)
  else if character = '&' then
    stream.property? fun cells =>
      (Property.name? cells).map fun (name, after) => (.anchor name, after)
  else if character = '!' then stream.property? (Property.tag? stream.inFlow)
  else if character = '|' && !stream.inFlow then stream.blockScalar? true
  else if character = '>' && !stream.inFlow then stream.blockScalar? false
  else if character = '\'' then stream.quotedScalar? .single
  else if character = '"' then stream.quotedScalar? .double
  else if beginsPlain stream.inFlow cell rest then stream.plainScalar?
  else none

/-! ### Whole texts -/

/-- The tokens at the end of a text, where all block collections end. -/
def finish? (stream : Stream) : Option (List Token) :=
  (stream.unindent (-1)).dropCandidate?.map fun closed => closed.tokens.reverse

/-- Reads tokens up to the end of the text, at most the given number. -/
def tokens? : (bound : Nat) → Stream → Option (List Token)
  | 0, _ => none
  | bound + 1, stream =>
    match skip stream.inFlow false stream.keyAllowed stream.rest with
    | (keyAllowed, ahead) =>
      match dropStale? { stream with keyAllowed, rest := ahead } with
      | none => none
      | some fresh =>
        match ahead with
        | [] => fresh.finish?
        | cell :: rest =>
          match (fresh.unindent cell.column).token? cell rest with
          | none => none
          | some next => tokens? bound next

end Stream

/-- The tokens of a text, or nothing if the text has none.  Each token takes at least one
character. -/
def Token.ofText? (text : String) : Option (List Token) := do
  let cells ← Cell.ofText? text
  Stream.tokens? (cells.length + 1) (Stream.start cells)

end ChainLaunchers.Yaml
