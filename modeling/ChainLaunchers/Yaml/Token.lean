/-
Module: ChainLaunchers.Yaml.Token
Purpose: The tokens of a YAML text.
Trusted boundary: the kinds of tokens, which restate those of the YAML scanner in use.
Main exports:
  Yaml.Style, Yaml.Token
-/
import ChainLaunchers.Yaml.Tag

namespace ChainLaunchers.Yaml

/-- Whether a scalar was written plainly, or between quotes or as a block. -/
inductive Style where
  | plain
  | marked
deriving Repr, DecidableEq, Inhabited

/-- The tokens of a YAML text.  The ends of the text and of its lines are no tokens; what
indentation says is said by the tokens that open and close block collections. -/
inductive Token where
  /-- The directive that names a version of YAML. -/
  | version (major minor : Nat)
  /-- The directive that gives a tag handle a meaning. -/
  | tagHandle (handle : List Char) (meaning : Tag)
  | documentStart
  | documentEnd
  | blockSequenceStart
  | blockMappingStart
  /-- The end of a block collection. -/
  | blockEnd
  | flowSequenceStart
  | flowSequenceEnd
  | flowMappingStart
  | flowMappingEnd
  /-- The dash in front of an entry of a block sequence. -/
  | blockEntry
  /-- The comma between entries of a flow collection. -/
  | flowEntry
  /-- The beginning of a key, marked or not. -/
  | key
  /-- The colon in front of a value. -/
  | value
  | anchor (name : List Char)
  | alias (name : List Char)
  | tag (handle : List Char) (suffix : Tag)
  | scalar (style : Style) (text : List Char)
deriving Repr, DecidableEq, Inhabited

end ChainLaunchers.Yaml
