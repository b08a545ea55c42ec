/-
Module: ChainLaunchers.Yaml.Composition
Purpose: The document of a YAML text, put together from its tokens.
Trusted boundary: the grammar of documents, which restates that of the YAML parser in use.
Main exports:
  Yaml.Composition, Yaml.Composition.node, Yaml.Document.ofTokens?, Yaml.Document.ofText?
-/
import ChainLaunchers.Yaml.Document
import ChainLaunchers.Yaml.Token.Stream

namespace ChainLaunchers.Yaml

/-!
Each function below takes the tokens of what it is named for.  A number bounds how deep the
calls nest.  Between two calls that do not take a token there is always one that does, so a
small multiple of the number of tokens is enough.
-/

/-- The state of putting a document together. -/
structure Composing where
  tokens : List Token
  /-- The meanings of the tag handles. -/
  handles : List (List Char × Tag)
  /-- The anchor names with their latest slots, each name once. -/
  slots : List (List Char × Nat)
  anchored : List Anchored
  size : Nat

/-- A step of putting a document together, which may fail. -/
abbrev Composition := StateT Composing Option

namespace Composition

/-! ### Single tokens -/

/-- The next token, which stays. -/
def peek : Composition (Option Token) := return (← get).tokens.head?

/-- Takes the next token. -/
def skip : Composition Unit := modify fun state => { state with tokens := state.tokens.drop 1 }

/-- Counts scalars, aliases and ends of collections. -/
def count (number : Nat) : Composition Unit :=
  modify fun state => { state with size := state.size + number }

/-- Whether the next token is one of the given ones, or the end of the text if that counts. -/
def nextIn (tokens : List Token) : Composition Bool := do
  match ← peek with
  | some token => return tokens.contains token
  | none => return false

/-- The scalar that stands where nothing is written. -/
def missing (tag : Option Tag) : Composition Node := do
  count 1
  return Node.missing tag

/-! ### Properties -/

/-- The anchor and the tag of a node. -/
structure Properties where
  anchor : Option (List Char)
  tag : Option Tag

/-- The full form of a tag. -/
def resolveTag (handle : List Char) (suffix : Tag) : Composition Tag := do
  if handle = [] then return suffix
  else
    match (← get).handles.find? fun known => known.1 = handle with
    | some (_, meaning) => return meaning ++ suffix
    | none => failure

/-- The anchor that may come next. -/
def anchor? : Composition (Option (List Char)) := do
  match ← peek with
  | some (.anchor name) => do
    skip
    return some name
  | _ => return none

/-- The tag that may come next. -/
def tag? : Composition (Option Tag) := do
  match ← peek with
  | some (.tag handle suffix) => do
    skip
    return some (← resolveTag handle suffix)
  | _ => return none

/-- An anchor and a tag in either order; both may be missing. -/
def properties : Composition Properties := do
  match ← anchor? with
  | some name => return ⟨some name, ← tag?⟩
  | none =>
    match ← tag? with
    | some tag => return ⟨← anchor?, some tag⟩
    | none => return ⟨none, none⟩

/-- Gives an anchor its slot. -/
def assignSlot (name : List Char) : Composition Nat := do
  let slot := (← get).slots.length
  modify fun state => { state with
    slots := (name, slot) :: state.slots.filter fun known => known.1 ≠ name }
  return slot

/-- The slot of a name that has been given to an anchor. -/
def slotOf (name : List Char) : Composition Nat := do
  match (← get).slots.find? fun known => known.1 = name with
  | some (_, slot) => return slot
  | none => failure

/-- Keeps a node for its aliases. -/
def record (slot position : Nat) (node : Node) : Composition Unit :=
  modify fun state => { state with anchored := ⟨slot, position, node⟩ :: state.anchored }

/-! ### Nodes -/

mutual

/-- A node.  Block collections are allowed only outside of flow collections, and a block
sequence without indentation of its own only in a block mapping. -/
def node : Nat → (block indentless : Bool) → Composition Node
  | 0, _, _ => failure
  | bound + 1, block, indentless => do
    match ← peek with
    | some (.alias name) => do
      skip
      let slot ← slotOf name
      count 1
      return .alias slot
    | _ => do
      let properties ← properties
      let position := (← get).size
      match properties.anchor with
      | none => content bound block indentless properties
      | some name => do
        let slot ← assignSlot name
        let node ← content bound block indentless properties
        record slot position node
        return node

/-- The node after its properties. -/
def content : Nat → (block indentless : Bool) → Properties → Composition Node
  | 0, _, _, _ => failure
  | bound + 1, block, indentless, properties => do
    match ← peek, block, indentless with
    | some .blockEntry, _, true => do
      count 2
      return .sequence properties.tag (← indentlessMembers bound)
    | some (.scalar style text), _, _ => do
      skip
      count 1
      return .scalar properties.tag style (String.ofList text)
    | some .flowSequenceStart, _, _ => do
      skip
      count 2
      return .sequence properties.tag (← flowMembers bound true)
    | some .flowMappingStart, _, _ => do
      skip
      count 2
      return .mapping properties.tag (← flowPairs bound true)
    | some .blockSequenceStart, true, _ => do
      skip
      count 2
      return .sequence properties.tag (← blockMembers bound)
    | some .blockMappingStart, true, _ => do
      skip
      count 2
      return .mapping properties.tag (← blockPairs bound)
    | _, _, _ =>
      if properties.anchor.isSome || properties.tag.isSome then missing properties.tag
      else failure

/-- The members of a block sequence up to its end. -/
def blockMembers : Nat → Composition (List Node)
  | 0 => failure
  | bound + 1 => do
    match ← peek with
    | some .blockEntry => do
      skip
      let member ←
        if ← nextIn [.blockEntry, .blockEnd] then missing none else node bound true false
      return member :: (← blockMembers bound)
    | some .blockEnd => do
      skip
      return []
    | _ => failure

/-- The members of a block sequence that has no indentation of its own. -/
def indentlessMembers : Nat → Composition (List Node)
  | 0 => failure
  | bound + 1 => do
    match ← peek with
    | some .blockEntry => do
      skip
      let member ←
        if ← nextIn [.blockEntry, .key, .value, .blockEnd] then missing none
        else node bound true false
      return member :: (← indentlessMembers bound)
    | _ => return []

/-- The members of a block mapping up to its end. -/
def blockPairs : Nat → Composition (List (Node × Node))
  | 0 => failure
  | bound + 1 => do
    match ← peek with
    | some .key => do
      skip
      let key ←
        if ← nextIn [.key, .value, .blockEnd] then missing none else node bound true true
      let value ←
        if ← nextIn [.value] then do
          skip
          if ← nextIn [.key, .value, .blockEnd] then missing none else node bound true true
        else missing none
      return (key, value) :: (← blockPairs bound)
    | some .blockEnd => do
      skip
      return []
    | _ => failure

/-- The members of a flow sequence up to its end.  A member with a key is a mapping of one
pair. -/
def flowMembers : Nat → (first : Bool) → Composition (List Node)
  | 0, _ => failure
  | bound + 1, first => do
    if ← nextIn [.flowSequenceEnd] then do
      skip
      return []
    else do
      if !first then do
        guard (← nextIn [.flowEntry])
        skip
      if ← nextIn [.key] then do
        skip
        let member ← flowPair bound
        return member :: (← flowMembers bound false)
      else if ← nextIn [.flowSequenceEnd] then do
        skip
        return []
      else do
        let member ← node bound false false
        return member :: (← flowMembers bound false)

/-- The pair of a flow sequence after the mark of its key.  Where the key is missing, the next
token is passed over. -/
def flowPair : Nat → Composition Node
  | 0 => failure
  | bound + 1 => do
    count 2
    let key ←
      if ← nextIn [.value, .flowEntry, .flowSequenceEnd] then do
        skip
        missing none
      else node bound false false
    let value ←
      if ← nextIn [.value] then do
        skip
        if ← nextIn [.flowEntry, .flowSequenceEnd] then missing none else node bound false false
      else missing none
    return .mapping none [(key, value)]

/-- The members of a flow mapping up to its end. -/
def flowPairs : Nat → (first : Bool) → Composition (List (Node × Node))
  | 0, _ => failure
  | bound + 1, first => do
    if ← nextIn [.flowMappingEnd] then do
      skip
      return []
    else do
      if !first then do
        guard (← nextIn [.flowEntry])
        skip
      if ← nextIn [.key] then do
        skip
        let key ←
          if ← nextIn [.value, .flowEntry, .flowMappingEnd] then missing none
          else node bound false false
        let value ←
          if ← nextIn [.value] then do
            skip
            if ← nextIn [.flowEntry, .flowMappingEnd] then missing none
            else node bound false false
          else missing none
        return (key, value) :: (← flowPairs bound false)
      else if ← nextIn [.flowMappingEnd] then do
        skip
        return []
      else do
        let key ← node bound false false
        let value ← missing none
        return (key, value) :: (← flowPairs bound false)

end

/-! ### Documents -/

/-- The tag handles that are known without a directive. -/
def standardHandles : List (List Char × Tag) :=
  [("!".toList, Tag.mark), ("!!".toList, Tag.core "")]

/-- The directives in front of a document, with the tag handles that they explain so far.  A
version may be named once, and a handle may be explained once. -/
def directives (versioned : Bool) (handles : List (List Char × Tag)) :
    List Token → Option (List (List Char × Tag) × List Token)
  | .version major minor :: rest =>
    if versioned || major ≠ 1 || (minor ≠ 1 && minor ≠ 2) then none
    else directives true handles rest
  | .tagHandle handle meaning :: rest =>
    if handles.any fun known => known.1 = handle then none
    else directives versioned ((handle, meaning) :: handles) rest
  | rest => some (handles, rest)

/-- The node of a document that begins with a mark. -/
def markedContent (bound : Nat) : Composition Node := do
  match ← peek with
  | none | some (.version _ _) | some (.tagHandle _ _) | some .documentStart
  | some .documentEnd => missing none
  | some _ => node bound true false

/-- How deep the calls for these tokens nest at most. -/
def bound (tokens : List Token) : Nat := 4 * tokens.length + 8

/-- The document of these tokens, if nothing but marks of its end follows it. -/
def document? (content : Nat → Composition Node) (handles : List (List Char × Tag))
    (tokens : List Token) : Option Document := do
  let (root, state) ← (content (bound tokens)).run ⟨tokens, handles, [], [], 0⟩
  guard (state.tokens.all (· = .documentEnd))
  return ⟨some root, state.anchored, state.size⟩

end Composition

/-- The document of these tokens.  There may be none, but not more than one. -/
def Document.ofTokens? (tokens : List Token) : Option Document :=
  match tokens with
  | [] => some ⟨none, [], 1⟩
  | .version _ _ :: _ | .tagHandle _ _ :: _ | .documentStart :: _ =>
    match Composition.directives false [] tokens with
    | some (handles, .documentStart :: rest) =>
      Composition.document? Composition.markedContent (handles ++ Composition.standardHandles)
        rest
    | _ => none
  | _ =>
    Composition.document? (fun bound => Composition.node bound true false)
      Composition.standardHandles tokens

/-- The document of a text. -/
def Document.ofText? (text : String) : Option Document := do
  Document.ofTokens? (← Token.ofText? text)

end ChainLaunchers.Yaml
