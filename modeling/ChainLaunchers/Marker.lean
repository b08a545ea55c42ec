/-
Module: ChainLaunchers.Marker
Purpose: Finding the chain name on a launch line.
Trusted boundary: the search, which restates the matching of a regular expression: the leftmost
  place, as many word bytes as there are; a marker can be of any length here.
Main exports:
  Marker, Marker.standard, Marker.ofString?, Marker.nameAt?, Marker.name?
-/
import ChainLaunchers.Text.Utf8

namespace ChainLaunchers

/-!
A launch line carries the name of its chain directly after a literal marker.  The first place
counts where the marker is followed by at least one word byte, and the name is the whole run of
word bytes there.  A marker that is followed by something else is passed over, and the search
goes on one byte further, so a later place may overlap it.
-/

/-- The literal in front of a chain name. -/
structure Marker where
  text : String
  nonempty : text ≠ ""
deriving Repr, DecidableEq

namespace Marker

/-- The marker of the usual launch lines. -/
def standard : Marker := ⟨"-ac_name=", by decide⟩

instance : Inhabited Marker := ⟨standard⟩

/-- Every text but the empty one is a marker. -/
def ofString? (text : String) : Option Marker :=
  if h : text ≠ "" then some ⟨text, h⟩ else none

/-- The bytes of the marker. -/
def bytes (marker : Marker) : Bytes := Utf8.ofString marker.text

/-- The name, if `line` begins with the marker and a word byte. -/
def nameAt? (marker : Marker) (line : Bytes) : Option Bytes :=
  if marker.bytes.isPrefixOf line then
    match (line.drop marker.bytes.length).takeWhile Bytes.isWord with
    | [] => none
    | name => some name
  else none

/-- The name on a line, if there is one. -/
def name? (marker : Marker) : (line : Bytes) → Option Bytes
  | [] => none
  | byte :: rest =>
    match marker.nameAt? (byte :: rest) with
    | some name => some name
    | none => marker.name? rest

@[simp] theorem ofString?_text (marker : Marker) : ofString? marker.text = some marker := by
  simp [ofString?, marker.nonempty]

example : standard.name? (Utf8.ofString "./komodod -ac_name= -ac_name=BEER &") =
    some (Utf8.ofString "BEER") := by decide

end Marker

end ChainLaunchers
