/-
Module: ChainLaunchers.Text.Quoted
Purpose: Quoting a text in a message, and writing a text as a JSON string.
Trusted boundary: the escapes, which restate those of quoted texts in messages and of the JSON
  printer in use.
Main exports:
  Quoted.inMessage, Quoted.inJson
-/
import ChainLaunchers.Text.Printable

namespace ChainLaunchers

namespace Quoted

/-! ### Hexadecimal digits -/

/-- The hexadecimal digits of a number, in small letters, without leading zeros. -/
def hexDigits (number : Nat) : List Char := Nat.toDigits 16 number

/-- The hexadecimal digits of a number below 65536, filled up to four. -/
def hexFour (number : Nat) : List Char :=
  List.replicate (4 - (hexDigits number).length) '0' ++ hexDigits number

/-! ### Messages

A quoted text stands between double quotes.  A double quote and a backslash get a backslash in
front, the usual control characters have letters, and every other character that is not shown
is written as its code point in hexadecimal between braces. -/

/-- One character of a quoted text. -/
def messageCharacter (character : Char) : List Char :=
  if character = '"' then ['\\', '"']
  else if character = '\\' then ['\\', '\\']
  else if character = '\n' then ['\\', 'n']
  else if character = '\r' then ['\\', 'r']
  else if character = '\t' then ['\\', 't']
  else if character.toNat = 0 then ['\\', '0']
  else if Printable.isShown character then [character]
  else ['\\', 'u', '\x7b'] ++ hexDigits character.toNat ++ ['\x7d']

/-- A text as a message quotes it. -/
def inMessage (text : String) : String :=
  String.ofList ('"' :: text.toList.flatMap messageCharacter ++ ['"'])

/-! ### JSON -/

/-- One character of a JSON string.  Only the double quote, the backslash and the control
characters below 32 are escaped. -/
def jsonCharacter (character : Char) : List Char :=
  if character = '"' then ['\\', '"']
  else if character = '\\' then ['\\', '\\']
  else if character.toNat = 8 then ['\\', 'b']
  else if character.toNat = 12 then ['\\', 'f']
  else if character = '\n' then ['\\', 'n']
  else if character = '\r' then ['\\', 'r']
  else if character = '\t' then ['\\', 't']
  else if character.toNat < 32 then ['\\', 'u'] ++ hexFour character.toNat
  else [character]

/-- A text as a JSON string. -/
def inJson (text : String) : String :=
  String.ofList ('"' :: text.toList.flatMap jsonCharacter ++ ['"'])

end Quoted

end ChainLaunchers
