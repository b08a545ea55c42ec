/-
Module: ChainLaunchers.Rule.OfValue
Purpose: Reading a rule from a typed value.
Trusted boundary: the shapes that a rule can have, which restate those that a derived reader of
  tagged records takes.
Main exports:
  Rule.Kind, Rule.Kind.fields, Rule.ofValue?
-/
import ChainLaunchers.Rule
import ChainLaunchers.Value

namespace ChainLaunchers

/-!
A rule is a mapping with the member `kind` and the members that its kind asks for, or a list of
the kind and these members in their order.  In a mapping the order is free, other members are
ignored, and a member that the rule knows may stand only once.  A member that the kind asks for
can also be named by its position, counted from 0.
-/

namespace Rule

/-- The two kinds of rules. -/
inductive Kind where
  | replace
  | remove
deriving Repr, DecidableEq, Inhabited

namespace Kind

/-- The kind of a name. -/
def ofName? (name : String) : Option Kind :=
  if name = "replace" then some .replace else if name = "remove" then some .remove else none

/-- The members that a rule of a kind needs, in their order. -/
def fields : Kind → List String
  | .replace => ["from", "to"]
  | .remove => ["literal"]

/-- The rule of a kind with the given members. -/
def rule? : Kind → List String → Option Rule
  | .replace, [pattern, replacement] => some (.replace pattern replacement)
  | .remove, [pattern] => some (.remove pattern)
  | _, _ => none

end Kind

/-- The name of the member that tells the kind. -/
def kindKey : String := "kind"

/-- Which of the fields a key names: `some none` if none of them, and `none` if such a key is
not allowed in a rule. -/
def fieldOfKey? (fields : List String) : Value → Option (Option Nat)
  | .text name => some (fields.idxOf? name)
  | .natural position => if position < fields.length then some (some position) else some none
  | _ => none

/-- The value of a field in the members of a mapping, which have to name it exactly once. -/
def fieldValue? (fields : List String) (index : Nat) (members : List (Value × Value)) :
    Option Value :=
  match members.filter fun member => fieldOfKey? fields member.1 = some (some index) with
  | [(_, value)] => some value
  | _ => none

/-- Whether a member tells the kind. -/
def tellsKind (member : Value × Value) : Bool :=
  match member.1 with
  | .text name => name = kindKey
  | _ => false

/-- The rule of a mapping. -/
def ofMembers? (members : List (Value × Value)) : Option Rule := do
  let [(_, .text name)] := members.filter tellsKind | none
  let kind ← Kind.ofName? name
  let others := members.filter fun member => !tellsKind member
  guard (others.all fun member => (fieldOfKey? kind.fields member.1).isSome)
  let values ← (List.range kind.fields.length).mapM fun index =>
    fieldValue? kind.fields index others
  let texts ← values.mapM Value.text?
  kind.rule? texts

/-- The rule that a value describes. -/
def ofValue? : Value → Option Rule
  | .mapping members => ofMembers? members
  | .list (.text name :: members) => do
    let kind ← Kind.ofName? name
    let texts ← members.mapM Value.text?
    kind.rule? texts
  | _ => none

example : ofValue? (.mapping [(.text "literal", .text "x"), (.text "kind", .text "remove")]) =
    some (.remove "x") := by decide
example : ofValue? (.list [.text "replace", .text "a", .text "b"]) =
    some (.replace "a" "b") := by decide

end Rule

end ChainLaunchers
