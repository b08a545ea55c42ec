/-
Module: ChainLaunchers.Yaml.Document
Purpose: YAML documents: their nodes, and what their aliases stand for.
Trusted boundary: the numbering of anchors, which restates that of the YAML reader in use.
Main exports:
  Yaml.Node, Yaml.Anchored, Yaml.Document, Yaml.Document.target?
-/
import ChainLaunchers.Yaml.Token

namespace ChainLaunchers.Yaml

/-- A node of a document.  A tag stands in its full form. -/
inductive Node where
  | scalar (tag : Option Tag) (style : Style) (text : String)
  | sequence (tag : Option Tag) (members : List Node)
  | mapping (tag : Option Tag) (members : List (Node × Node))
  /-- Stands for the node of a slot. -/
  | alias (slot : Nat)
deriving Inhabited

namespace Node

/-- The scalar that stands where nothing is written. -/
def missing (tag : Option Tag) : Node := .scalar tag .plain ""

/-- Whether nothing is written here. -/
def isMissing : Node → Bool
  | .scalar _ .plain text => text = ""
  | _ => false

end Node

/-- A node with an anchor.  An anchor gets a slot, whose number is that of the anchor names
known before it; so a name that is given again may share its slot with the next new name. -/
structure Anchored where
  slot : Nat
  /-- Where the node begins, counted in scalars, aliases and ends of collections. -/
  position : Nat
  node : Node
deriving Inhabited

/-- A document. -/
structure Document where
  /-- Its only node, unless the text holds no document. -/
  root : Option Node
  anchored : List Anchored
  /-- The number of scalars and aliases, and of both ends of collections. -/
  size : Nat
deriving Inhabited

/-- The node that an alias stands for: of the nodes with its slot the one that begins last. -/
def Document.target? (document : Document) (slot : Nat) : Option Node :=
  (document.anchored.foldl (fun (best : Option Anchored) (next : Anchored) =>
    if next.slot ≠ slot then best
    else
      match best with
      | none => some next
      | some old => if old.position < next.position then some next else best) none).map
    Anchored.node

end ChainLaunchers.Yaml
