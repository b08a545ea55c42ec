/-
Module: ChainLaunchers.Yaml.ScalarValue
Purpose: The typed value of a scalar.
Trusted boundary: the resolution of plain scalars, which restates that of the YAML reader in use.
Main exports:
  Yaml.Number.integer?, Yaml.Number.isReal, Yaml.ScalarValue.ofPlain?,
  Yaml.ScalarValue.ofScalar?
-/
import ChainLaunchers.Value
import ChainLaunchers.Yaml.Document

namespace ChainLaunchers.Yaml

/-! ### Numbers -/

namespace Number

/-- The value of a digit in a base up to 16. -/
def digit? (base : Nat) (character : Char) : Option Nat :=
  let value :=
    if '0' ≤ character ∧ character ≤ '9' then some (character.toNat - 48)
    else if 'a' ≤ character ∧ character ≤ 'f' then some (character.toNat - 87)
    else if 'A' ≤ character ∧ character ≤ 'F' then some (character.toNat - 55)
    else none
  value.filter (· < base)

/-- The value of one or more digits. -/
def digits? (base : Nat) (characters : List Char) : Option Nat :=
  if characters = [] then none
  else characters.foldlM (fun value character =>
    (digit? base character).map fun digit => base * value + digit) 0

/-- The characters without a sign in front. -/
def dropSign (characters : List Char) : List Char :=
  match characters with
  | '+' :: rest => rest
  | '-' :: rest => rest
  | rest => rest

/-- Whether the characters are digits with a needless zero in front.  They are a text, not a
number. -/
def isPadded (characters : List Char) : Bool :=
  match dropSign characters with
  | '0' :: next :: rest => (next :: rest).all Char.isDigit
  | _ => false

/-- The value of digits with a mark for their base in front. -/
def based? (characters : List Char) : Option Nat :=
  match characters with
  | '0' :: 'x' :: rest => digits? 16 rest
  | '0' :: 'o' :: rest => digits? 8 rest
  | '0' :: 'b' :: rest => digits? 2 rest
  | _ => none

/-- The number that characters without a sign spell: decimal digits without a needless zero, or
digits with a mark for their base. -/
def natural? (characters : List Char) : Option Nat :=
  match based? characters with
  | some value => some value
  | none => if isPadded characters then none else digits? 10 characters

/-- An integer by its sign and its magnitude. -/
structure Signed where
  isNegative : Bool
  magnitude : Nat
deriving Repr, DecidableEq

/-- The integer that characters spell, with a sign if one comes first. -/
def integer? (characters : List Char) : Option Signed :=
  match characters with
  | '+' :: rest => (natural? rest).map (⟨false, ·⟩)
  | '-' :: rest => (natural? rest).map (⟨true, ·⟩)
  | rest => (natural? rest).map (⟨false, ·⟩)

/-- Whether an integer fits a word of the given number of bits, signed or not. -/
def Signed.fits (value : Signed) (bits : Nat) : Bool :=
  if value.isNegative then value.magnitude ≤ Nat.pow 2 (bits - 1)
  else value.magnitude < Nat.pow 2 bits

/-- A decimal number with digits before and after a point and an exponent. -/
structure Decimal where
  digits : List Char
  exponent : Int
deriving Repr

/-- The exponent that characters spell; there is none if there are no characters. -/
def exponent? (characters : List Char) : Option Int :=
  match characters with
  | [] => some 0
  | mark :: rest =>
    if mark = 'e' || mark = 'E' then
      match rest with
      | '-' :: digits => (digits? 10 digits).map fun value => -(Int.ofNat value)
      | '+' :: digits => (digits? 10 digits).map Int.ofNat
      | digits => (digits? 10 digits).map Int.ofNat
    else none

/-- The decimal number that characters without a sign spell. -/
def decimal? (characters : List Char) : Option Decimal :=
  let whole := characters.takeWhile Char.isDigit
  let afterWhole := characters.dropWhile Char.isDigit
  let (fraction, afterFraction) :=
    match afterWhole with
    | '.' :: rest => (rest.takeWhile Char.isDigit, rest.dropWhile Char.isDigit)
    | rest => ([], rest)
  if whole ++ fraction = [] then none
  else
    (exponent? afterFraction).map fun exponent =>
      ⟨whole ++ fraction, exponent - fraction.length⟩

/-- The least number that is too large for a floating-point number of 64 bits, which rounds
it. -/
def tooLarge : Nat := Nat.pow 2 1024 - Nat.pow 2 970

/-- Whether a decimal number fits a floating-point number of 64 bits. -/
def Decimal.isFinite (decimal : Decimal) : Bool :=
  let significant := decimal.digits.dropWhile (· = '0')
  let magnitude : Int := significant.length + decimal.exponent
  if significant = [] || magnitude < 308 then true
  else if 310 < magnitude then false
  else
    let value := (digits? 10 significant).getD 0
    if 0 ≤ decimal.exponent then decide (value * Nat.pow 10 decimal.exponent.toNat < tooLarge)
    else decide (value < tooLarge * Nat.pow 10 (-decimal.exponent).toNat)

/-- Whether characters spell a number that is not an integer: a decimal number, an infinity, or
the value that is no number. -/
def isReal (characters : List Char) : Bool :=
  let spells (names : List String) (text : List Char) : Bool :=
    names.any fun name => name.toList = text
  let infinities := [".inf", ".Inf", ".INF"]
  let finite (text : List Char) : Bool := (decimal? text).any Decimal.isFinite
  match characters with
  | '+' :: rest => spells infinities rest || finite rest
  | '-' :: rest => spells infinities rest || finite rest
  | rest => spells infinities rest || spells [".nan", ".NaN", ".NAN"] rest || finite rest

end Number

/-! ### Typed values -/

namespace ScalarValue

/-- Whether a text spells the null value; a scalar that is not written does too. -/
def isNull (text : String) : Bool :=
  text = "null" || text = "Null" || text = "NULL" || text = "~"

/-- The truth value that a text spells. -/
def truth? (text : String) : Option Bool :=
  if text = "true" || text = "True" || text = "TRUE" then some true
  else if text = "false" || text = "False" || text = "FALSE" then some false
  else none

/-- An integer as a value; those that do not fit 64 bits have none. -/
def ofInteger? (value : Number.Signed) : Option Value :=
  if !value.fits 64 then none
  else if value.isNegative then some (.negative value.magnitude)
  else some (.natural value.magnitude)

/-- The integer that a text spells, if it fits 128 bits. -/
def integer? (text : String) : Option Number.Signed :=
  (Number.integer? text.toList).filter (·.fits 128)

/-- The value of a plain scalar without a tag. -/
def ofPlain? (text : String) : Option Value :=
  if text = "" || isNull text then some .null
  else
    match truth? text with
    | some value => some (.truth value)
    | none =>
      match integer? text with
      | some value => ofInteger? value
      | none =>
        if !Number.isPadded text.toList && Number.isReal text.toList then some (.real text)
        else some (.text text)

/-- The value of a scalar: its tag can ask for a type, and what is not plain is a text. -/
def ofScalar? (tag : Option Tag) (style : Style) (text : String) : Option Value :=
  match tag.elim .nothing Tag.meaning with
  | .truth => (truth? text).map Value.truth
  | .integer => (integer? text).bind ofInteger?
  | .real => if Number.isReal text.toList then some (.real text) else none
  | .null => if isNull text then some .null else none
  | .text => some (.text text)
  | .unknown => none
  | .nothing =>
    match style with
    | .plain => ofPlain? text
    | .marked => some (.text text)

end ScalarValue

end ChainLaunchers.Yaml
