/-
Module: ChainLaunchers.Text.Utf8
Purpose: UTF-8: characters to bytes, bytes to characters, and the reading that puts a
  replacement character where the bytes are malformed.
Trusted boundary: the cutting of malformed bytes into units, which restates the recommended
  practice of the Unicode standard.
Main exports:
  Utf8.encode, Utf8.ofString, Utf8.units, Utf8.decode?, Utf8.isValid, Utf8.decodeLossy
-/
import ChainLaunchers.Bytes

namespace ChainLaunchers

namespace Utf8

/-! ### Writing -/

/-- The bytes of a sequence of characters. -/
def encode (characters : List Char) : Bytes := characters.flatMap String.utf8EncodeChar

/-- The bytes of a string. -/
def ofString (text : String) : Bytes := encode text.toList

@[simp] theorem encode_nil : encode [] = [] := rfl

@[simp] theorem encode_cons (character : Char) (characters : List Char) :
    encode (character :: characters) = String.utf8EncodeChar character ++ encode characters := rfl

@[simp] theorem encode_append (left right : List Char) :
    encode (left ++ right) = encode left ++ encode right := by
  simp [encode]

/-! ### Reading

The bytes are cut into units.  A unit is a well-formed character or a malformed part: the
longest stretch that could still have become a character, and at least one byte. -/

/-- A byte that can only follow another one inside a character. -/
def isContinuation (byte : UInt8) : Bool := 128 ≤ byte && byte ≤ 191

/-- The six low bits of a continuation byte. -/
def payload (byte : UInt8) : Nat := byte.toNat % 64

/-- Which second bytes may follow a first byte of a three-byte character: the shorter
spellings of small code points and the surrogates are excluded. -/
def secondOfThree (first second : UInt8) : Bool :=
  isContinuation second && !(first = 224 && second < 160) && !(first = 237 && 160 ≤ second)

/-- Which second bytes may follow a first byte of a four-byte character: the shorter
spellings and the code points beyond the last one are excluded. -/
def secondOfFour (first second : UInt8) : Bool :=
  isContinuation second && !(first = 240 && second < 144) && !(first = 244 && 144 ≤ second)

/-- The units of a byte string, in order; `none` stands for a malformed part. -/
def units : Bytes → List (Option Char)
  | [] => []
  | first :: rest =>
    if first < 128 then some (Char.ofNat first.toNat) :: units rest
    else if 194 ≤ first && first ≤ 223 then
      match rest with
      | second :: rest₂ =>
        if isContinuation second then
          some (Char.ofNat (first.toNat % 32 * 64 + payload second)) :: units rest₂
        else none :: units (second :: rest₂)
      | [] => [none]
    else if 224 ≤ first && first ≤ 239 then
      match rest with
      | second :: rest₂ =>
        if secondOfThree first second then
          match rest₂ with
          | third :: rest₃ =>
            if isContinuation third then
              some (Char.ofNat (first.toNat % 16 * 4096 + payload second * 64 + payload third))
                :: units rest₃
            else none :: units (third :: rest₃)
          | [] => [none]
        else none :: units (second :: rest₂)
      | [] => [none]
    else if 240 ≤ first && first ≤ 244 then
      match rest with
      | second :: rest₂ =>
        if secondOfFour first second then
          match rest₂ with
          | third :: rest₃ =>
            if isContinuation third then
              match rest₃ with
              | fourth :: rest₄ =>
                if isContinuation fourth then
                  some (Char.ofNat (first.toNat % 8 * 262144 + payload second * 4096
                    + payload third * 64 + payload fourth)) :: units rest₄
                else none :: units (fourth :: rest₄)
              | [] => [none]
            else none :: units (third :: rest₃)
          | [] => [none]
        else none :: units (second :: rest₂)
      | [] => [none]
    else none :: units rest

/-- The characters of a byte string, if it is well-formed. -/
def decode? (bytes : Bytes) : Option (List Char) := (units bytes).mapM id

/-- Whether a byte string is well-formed. -/
def isValid (bytes : Bytes) : Bool := (units bytes).all Option.isSome

/-- The characters of a byte string, with the replacement character for each malformed
part. -/
def decodeLossy (bytes : Bytes) : List Char := (units bytes).map (·.getD '\uFFFD')

/-- The lossy reading as a string: how paths and contents appear in messages. -/
def toStringLossy (bytes : Bytes) : String := String.ofList (decodeLossy bytes)

/-- The exact reading as a string. -/
def toString? (bytes : Bytes) : Option String := (decode? bytes).map String.ofList

/-! ### Examples -/

example : units [97, 195, 169, 255, 98] = [some 'a', some 'é', none, some 'b'] := by decide
example : units [240, 159, 146] = [none] := by decide
example : units [237, 160, 128] = [none, none, none] := by decide
example : decode? (ofString "a é 😀") = some "a é 😀".toList := by decide +kernel

end Utf8

end ChainLaunchers
