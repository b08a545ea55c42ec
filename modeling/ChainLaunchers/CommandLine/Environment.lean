/-
Module: ChainLaunchers.CommandLine.Environment
Purpose: The environment of a run, and the file that can add variables to it.
Trusted boundary: the grammar of environment files and the look-up of variables, which restate
  those of the library that loads these files and of the system.
Main exports:
  Environment, Environment.ofBlock, Environment.value?, Environment.text?, Environment.assign,
  Environment.define?, EnvironmentFile.entry?, Tree.environmentFile?,
  Environment.extended?
-/
import ChainLaunchers.Text.Alphanumeric
import ChainLaunchers.Text.Whitespace
import ChainLaunchers.Line
import ChainLaunchers.Tree.Walk

namespace ChainLaunchers

/-! ### Variables -/

/-- The variables of a run with their values. -/
abbrev Environment := List (Bytes × Bytes)

namespace Environment

/-- The variables of an environment that is written as one block: each has its name, an equals
sign and its value, and null bytes stand between them. -/
def ofBlock (block : Bytes) : Environment :=
  (Bytes.splitOn 0 block).filterMap fun entry =>
    match entry.dropWhile (· ≠ 61) with
    | [] => none
    | _ :: value => some (entry.takeWhile (· ≠ 61), value)

/-- A variable as a block holds it. -/
def entry (name value : Bytes) : Bytes := name ++ 61 :: value

/-- What an entry holds after a name and an equals sign, if it begins with them. -/
def valueIn? (name : Bytes) (known : Bytes × Bytes) : Option Bytes :=
  let text := entry known.1 known.2
  if (name ++ [61]).isPrefixOf text then some (text.drop (name.length + 1)) else none

/-- The value of a name.  A name is looked up by the beginnings of the entries, so that one with
an equals sign in it finds the rest of a value that begins as the name goes on.  The empty name
has no value. -/
def value? (environment : Environment) (name : Bytes) : Option Bytes :=
  if name = [] then none else environment.findSome? (valueIn? name)

/-- The value of a name if it is text. -/
def text? (environment : Environment) (name : String) : Option String :=
  (environment.value? (Utf8.ofString name)).bind Utf8.toString?

/-- Gives a name a value, in place of the one that it had. -/
def assign (name value : Bytes) : Environment → Environment
  | [] => [(name, value)]
  | known :: rest =>
    if (valueIn? name known).isSome then (name, value) :: rest
    else known :: assign name value rest

/-- Gives a variable a value unless it has one that is text.  No variable can hold the null
byte. -/
def define? (environment : Environment) (name value : List Char) : Option Environment :=
  if (environment.text? (String.ofList name)).isSome then some environment
  else if Char.ofNat 0 ∈ value then none
  else some (environment.assign (Utf8.encode name) (Utf8.encode value))

example : value? [([65], [66, 61, 67])] [65] = some [66, 61, 67] := by decide
example : value? [([65], [66, 61, 67])] [65, 61, 66] = some [67] := by decide
example : value? [([65], [66])] [] = none := by decide

end Environment

/-! ### Environment files

A line of an environment file gives a variable a value.  The word `export` may come first, and
a number sign begins a comment.  The value is a text without blanks, of which parts may stand
between quotes.  Outside of single quotes a backslash takes the next character as it is, and a
dollar sign stands for the value of the variable that is named after it, by letters and digits
or between braces. -/

namespace EnvironmentFile

/-- The text of a line without the white space at its end. -/
def trimEnd (line : List Char) : List Char := (line.reverse.dropWhile Whitespace.isBlank).reverse

/-- The text without the white space at its beginning. -/
def skipBlanks (line : List Char) : List Char := line.dropWhile Whitespace.isBlank

/-- The name of a variable and the text after it. -/
def name? (text : List Char) : Option (List Char × List Char) :=
  match text with
  | first :: _ =>
    if first.isAlpha || first = '_' then
      let isMember (character : Char) : Bool :=
        character.isAlphanum || character = '_' || character = '.'
      some (text.takeWhile isMember, text.dropWhile isMember)
    else none
  | [] => none

/-- Where in a value reading has come to. -/
inductive Position where
  /-- Outside of quotes. -/
  | bare
  /-- Between double quotes. -/
  | double
  /-- Between single quotes. -/
  | single
  /-- After a backslash, between double quotes or not. -/
  | backslash (quoted : Bool)
  /-- In the name of a variable after a dollar sign, between double quotes or not. -/
  | name (quoted : Bool) (text : List Char)
  /-- In the name of a variable between braces, between double quotes or not. -/
  | braces (quoted : Bool) (text : List Char)
  /-- After the value. -/
  | finished
deriving Repr, DecidableEq

/-- The position inside or outside of double quotes. -/
def Position.ofQuoted (quoted : Bool) : Position := if quoted then .double else .bare

/-- The character that a backslash makes of the next one. -/
def escaped? (character : Char) : Option Char :=
  if character = 'n' then some '\n'
  else if ['\\', '\'', '"', '$', ' '].contains character then some character
  else none

/-- Reads a value on, after the given text; `known` gives the values of variables. -/
def valueFrom (known : List Char → List Char) (text : List Char) :
    Position → List Char → Option (List Char)
  | .bare, [] | .finished, [] | .backslash false, [] => some text
  | .name false name, [] => some (text ++ known name)
  | _, [] => none
  | .finished, character :: rest =>
    if character = ' ' || character = '\t' then valueFrom known text .finished rest
    else if character = '#' then some text
    else none
  | .backslash quoted, character :: rest =>
    match escaped? character with
    | some plain => valueFrom known (text ++ [plain]) (.ofQuoted quoted) rest
    | none => none
  | .single, character :: rest =>
    if character = '\'' then valueFrom known text .bare rest
    else valueFrom known (text ++ [character]) .single rest
  | .name quoted name, character :: rest =>
    if Alphanumeric.isMember character then
      valueFrom known text (.name quoted (name ++ [character])) rest
    else if character = '\x7b' && name = [] then valueFrom known text (.braces quoted []) rest
    else if character = '$' then valueFrom known (text ++ known name) (.name quoted []) rest
    else valueFrom known (text ++ known name ++ [character]) (.ofQuoted quoted) rest
  | .braces quoted name, character :: rest =>
    if character = '\x7d' then valueFrom known (text ++ known name) (.ofQuoted quoted) rest
    else valueFrom known text (.braces quoted (name ++ [character])) rest
  | .double, character :: rest =>
    if character = '$' then valueFrom known text (.name true []) rest
    else if character = '"' then valueFrom known text .bare rest
    else if character = '\\' then valueFrom known text (.backslash true) rest
    else valueFrom known (text ++ [character]) .double rest
  | .bare, character :: rest =>
    if character = '$' then valueFrom known text (.name false []) rest
    else if character = '\'' then valueFrom known text .single rest
    else if character = '"' then valueFrom known text .double rest
    else if character = '\\' then valueFrom known text (.backslash false) rest
    else if character = ' ' || character = '\t' then valueFrom known text .finished rest
    else valueFrom known (text ++ [character]) .bare rest

/-- The text after an equals sign. -/
def afterEquals? (text : List Char) : Option (List Char) :=
  match text with
  | '=' :: rest => some rest
  | _ => none

/-- A name and an equals sign after it, with the text that follows. -/
def assigned? (text : List Char) : Option (List Char × List Char) := do
  let (name, rest) ← name? text
  let after ← afterEquals? (skipBlanks rest)
  return (name, after)

/-- The variable that a line assigns to, with the text that follows.  The word `export` may come
first, but can be a variable as well. -/
def target? (text : List Char) : Option (List Char × List Char) :=
  match name? text with
  | none => none
  | some (first, rest) =>
    match afterEquals? (skipBlanks rest) with
    | some after => some (first, after)
    | none => if first = "export".toList then assigned? (skipBlanks rest) else none

/-- The variable and the value of a line: `some none` for a line without any, and `none` for a
line that is malformed. -/
def entry? (known : List Char → List Char) (line : List Char) :
    Option (Option (List Char × List Char)) :=
  match skipBlanks (trimEnd line) with
  | [] => some none
  | '#' :: _ => some none
  | text =>
    match target? text with
    | none => none
    | some (name, rest) =>
      match skipBlanks rest with
      | [] => some (some (name, []))
      | '#' :: _ => some (some (name, []))
      | written => (valueFrom known [] .bare written).map fun value => some (name, value)

example : entry? (fun _ => []) "export A = \"b c\"\\n # d".toList =
    some (some ("A".toList, "b c\n".toList)) := by decide
example : entry? (fun _ => ['x']) "A=$B$\x7bC\x7d'$D'".toList =
    some (some ("A".toList, "xx$D".toList)) := by decide

/-- The line without its line break. -/
def dropBreak (line : Bytes) : Bytes :=
  match line.reverse with
  | 10 :: 13 :: rest => rest.reverse
  | 10 :: rest => rest.reverse
  | _ => line

end EnvironmentFile

namespace Environment

/-- The value that a name stands for in an environment file: that of the environment if it is
text, else the one that the file has given it, else nothing. -/
def substitute (environment : Environment) (given : List (List Char × List Char))
    (name : List Char) : List Char :=
  match environment.text? (String.ofList name) with
  | some text => text.toList
  | none => (given.lookup name).getD []

/-- Takes the lines of an environment file into the environment, up to the first one that is
malformed.  `given` are the values that the file has given so far, the latest first.  There is
no environment if a variable cannot hold its value. -/
def takeLines? (environment : Environment) (given : List (List Char × List Char)) :
    List Bytes → Option Environment
  | [] => some environment
  | line :: rest =>
    match Utf8.decode? (EnvironmentFile.dropBreak line) with
    | none => some environment
    | some text =>
      match EnvironmentFile.entry? (environment.substitute given) text with
      | none => some environment
      | some none => takeLines? environment given rest
      | some (some (name, value)) =>
        match environment.define? name value with
        | none => none
        | some defined => takeLines? defined ((name, value) :: given) rest

end Environment

/-! ### Finding the file -/

/-- The name of environment files. -/
def environmentFileName : Name := Utf8.ofString ".env"

/-- The nearest environment file, from a directory upwards; what is no file is passed over. -/
def Tree.environmentFile? (tree : Tree) : (depth : Nat) → Place → Option Bytes
  | 0, place =>
    match tree.node? (place ++ [environmentFileName]) with
    | some (.file content) => some content
    | _ => none
  | depth + 1, place =>
    match tree.node? (place ++ [environmentFileName]) with
    | some (.file content) => some content
    | _ => tree.environmentFile? depth place.dropLast

/-- The environment with the variables of the nearest environment file, if they can hold their
values. -/
def Environment.extended? (environment : Environment) (tree : Tree) : Option Environment :=
  match tree.environmentFile? tree.workingPlace.length tree.workingPlace with
  | some content => environment.takeLines? [] (Line.ofData content)
  | none => some environment

end ChainLaunchers
