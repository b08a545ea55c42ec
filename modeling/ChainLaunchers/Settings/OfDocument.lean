/-
Module: ChainLaunchers.Settings.OfDocument
Purpose: The settings that a YAML document describes.
Trusted boundary: the limits and the treatment of unknown and repeated members, which restate
  those of the YAML reader in use.
Main exports:
  Settings.Draft, Settings.Reading, Settings.ofDocument?
-/
import ChainLaunchers.Settings
import ChainLaunchers.Rule.OfValue
import ChainLaunchers.Yaml.ScalarValue

namespace ChainLaunchers

/-!
A document is a mapping whose members replace the default settings of their names.  Members of
other names are ignored, and a name of the settings may stand only once.  The texts among the
settings take any scalar by its spelling.  The rules are typed values.

Following an alias counts, and a document may follow only a hundred times as many aliases as
it has parts; ignored members are not followed.  Collections may be nested 128 deep.
-/

namespace Settings

open Yaml

/-- How deep collections may be nested. -/
def depthLimit : Nat := 128

/-- How many aliases may be followed for each part of a document. -/
def aliasFactor : Nat := 100

/-- Reading a document: the number of aliases followed so far is kept, and reading may fail. -/
abbrev Reading := StateT Nat Option

/-- The node that counts: that of the slot for an alias. -/
def follow (document : Document) (node : Node) : Reading Node := do
  match node with
  | .alias slot => do
    let followed := (← get) + 1
    set followed
    guard (followed ≤ document.size * aliasFactor)
    match document.target? slot with
    | some target => return target
    | none => failure
  | other => return other

/-- The spelling of a scalar. -/
def spelling (document : Document) (node : Node) : Reading String := do
  match ← follow document node with
  | .scalar _ _ text => return text
  | _ => failure

/-! ### Typed values -/

/-- Whether a tag says that the type of its node is not known. -/
def isUnknown (tag : Option Tag) : Bool := tag.any fun tag => tag.meaning = .unknown

/-- The typed value of a node in which collections may be nested to the given depth. -/
def typed (document : Document) : (depth : Nat) → Node → Reading Value
  | depth, node => do
    match depth, ← follow document node with
    | _, .scalar tag style text => (ScalarValue.ofScalar? tag style text : Option Value)
    | depth + 1, .sequence tag members => do
      guard (!isUnknown tag)
      return .list (← members.mapM (typed document depth))
    | depth + 1, .mapping tag members => do
      guard (!isUnknown tag)
      return .mapping (← members.mapM fun (key, value) => do
        return (← typed document depth key, ← typed document depth value))
    | _, _ => failure

/-! ### Rules -/

/-- The value of a member of a rule.  That of the kind is a spelling, and others are typed. -/
def ruleMember (document : Document) (depth : Nat) (key value : Node) :
    Reading (Value × Value) := do
  let name ← typed document depth key
  if name.text? = some Rule.kindKey then
    return (name, .text (← spelling document value))
  else return (name, ← typed document depth value)

/-- The value of a rule whose collections may be nested to the given depth. -/
def ruleValue (document : Document) (depth : Nat) (node : Node) : Reading Value := do
  match depth, ← follow document node with
  | depth + 1, .mapping tag members => do
    guard (!isUnknown tag)
    return .mapping (← members.mapM fun (key, value) => ruleMember document depth key value)
  | depth + 1, .sequence tag (kind :: members) => do
    guard (!isUnknown tag)
    let name ← spelling document kind
    return .list (.text name :: (← members.mapM (typed document depth)))
  | _, _ => failure

/-- A rule. -/
def rule (document : Document) (depth : Nat) (node : Node) : Reading Rule := do
  let value ← ruleValue document depth node
  (Rule.ofValue? value : Option Rule)

/-- A list of rules; where nothing is written it is empty. -/
def ruleList (document : Document) (depth : Nat) (node : Node) : Reading (List Rule) := do
  let followed ← follow document node
  if followed.isMissing then return []
  else
    match depth, followed with
    | depth + 1, .sequence _ members => members.mapM (rule document depth)
    | _, _ => failure

/-! ### Members -/

/-- The settings that a document has named so far. -/
structure Draft where
  input : Option String := none
  outputDirectory : Option String := none
  extension : Option String := none
  marker : Option String := none
  rules : Option (List Rule) := none
deriving Repr, DecidableEq, Inhabited

/-- The settings of a draft, with the defaults for what it does not name. -/
def Draft.complete (draft : Draft) : Settings where
  input := (draft.input.map Utf8.ofString).getD standard.input
  outputDirectory := (draft.outputDirectory.map Utf8.ofString).getD standard.outputDirectory
  extension := draft.extension.getD standard.extension
  marker := draft.marker.getD standard.marker
  rules := draft.rules.getD standard.rules

/-- Takes one member of the document into the draft. -/
def takeMember (document : Document) (depth : Nat) (draft : Draft) (member : Node × Node) :
    Reading Draft := do
  let name ← spelling document member.1
  if name = "input" then do
    guard draft.input.isNone
    return { draft with input := some (← spelling document member.2) }
  else if name = "output_dir" then do
    guard draft.outputDirectory.isNone
    return { draft with outputDirectory := some (← spelling document member.2) }
  else if name = "extension" then do
    guard draft.extension.isNone
    return { draft with extension := some (← spelling document member.2) }
  else if name = "marker" then do
    guard draft.marker.isNone
    return { draft with marker := some (← spelling document member.2) }
  else if name = "rules" then do
    guard draft.rules.isNone
    return { draft with rules := some (← ruleList document depth member.2) }
  else return draft

/-- The draft of a document. -/
def draft (document : Document) : Reading Draft := do
  match document.root with
  | none => return {}
  | some root => do
    let followed ← follow document root
    if followed.isMissing then return {}
    else
      match depthLimit, followed with
      | depth + 1, .mapping _ members => members.foldlM (takeMember document depth) {}
      | _, _ => failure

/-- The settings that a document describes, if it describes any. -/
def ofDocument? (document : Document) : Option Settings :=
  ((draft document).run' 0).map Draft.complete

end Settings

end ChainLaunchers
