/-
Module: ChainLaunchers.Value
Purpose: Typed values, as structured documents hold them.
Trusted boundary: none
Main exports:
  Value
-/

namespace ChainLaunchers

/-- A typed value of a document.  The members of a mapping keep their order, and a key may
occur more than once. -/
inductive Value where
  | null
  | truth (value : Bool)
  | natural (value : Nat)
  /-- An integer that is written with a minus sign, by its magnitude, which may be zero. -/
  | negative (magnitude : Nat)
  /-- A number with a fraction, an exponent or no finite value, by its spelling. -/
  | real (spelling : String)
  | text (value : String)
  | list (members : List Value)
  | mapping (members : List (Value × Value))
deriving Repr, Inhabited

/-- The text of a value that is one. -/
def Value.text? : Value → Option String
  | .text value => some value
  | _ => none

end ChainLaunchers
