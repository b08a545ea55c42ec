/-
Module: ChainLaunchers.Yaml.Tag
Purpose: The tags of a YAML text, and what they say about nodes.
Trusted boundary: the meaning of tags, which restates that of the YAML reader in use.
Main exports:
  Yaml.Tag, Yaml.Tag.ofWritten, Yaml.Tag.core, Yaml.Tag.Meaning, Yaml.Tag.meaning
-/
import ChainLaunchers.Text.Utf8

namespace ChainLaunchers.Yaml

/-- The full form of a tag.  It need not be text, since escapes can write any bytes. -/
abbrev Tag := Bytes

namespace Tag

/-- The tag of what is written for it: a null byte ends it. -/
def ofWritten (written : Bytes) : Tag := written.takeWhile (· ≠ 0)

/-- The tag of a type of the core schema. -/
def core (name : String) : Tag := Utf8.ofString ("tag:yaml.org,2002:" ++ name)

/-- The tag that is an exclamation mark alone. -/
def mark : Tag := Utf8.ofString "!"

/-- What a tag says about a node. -/
inductive Meaning where
  | truth
  | integer
  | real
  | null
  /-- A scalar is a text; collections are what they are. -/
  | text
  /-- The node has a type that is not known here. -/
  | unknown
  /-- The node is what it would be without a tag. -/
  | nothing
deriving Repr, DecidableEq, Inhabited

/-- What a tag says.  A tag of the core schema names its type, and other global tags say that a
scalar is a text.  A local tag, which begins with an exclamation mark, has no meaning here, but
if it is no text it is passed over. -/
def meaning : Tag → Meaning
  | 33 :: name => if Utf8.isValid name then .unknown else .nothing
  | tag =>
    if tag = core "bool" then .truth
    else if tag = core "int" then .integer
    else if tag = core "float" then .real
    else if tag = core "null" then .null
    else .text

example : meaning mark = .unknown := by decide
example : meaning [33, 192, 128] = .nothing := by decide
example : meaning (core "int") = .integer := by decide +kernel
example : meaning (core "str") = .text := by decide +kernel

end Tag

end ChainLaunchers.Yaml
