/-
Module: ChainLaunchers.Proofs.Generator.FileName
Purpose: The file names that accepted settings give to launchers: each is a single ordinary
  component, and two of them are equal exactly if their chains are.
Trusted boundary: none
Main exports:
  Generator.IsAccepted, Marker.isChainName_of_name?, Generator.IsPlainName,
  Generator.isPlainName_fileName, Generator.fileName_eq_iff, Generator.IsAccepted.isPlainName
-/
import ChainLaunchers.Generator
import ChainLaunchers.Proofs.Path.Segments
import ChainLaunchers.Proofs.Text.Ascii
import Mathlib.Data.List.TakeWhile

namespace ChainLaunchers

namespace Settings

/-! ### Accepted settings -/

theorem marker_of_validate {settings : Settings} (valid : settings.validate = .ok ()) :
    settings.marker ≠ "" := by
  intro empty
  rw [validate, if_pos empty] at valid
  cases valid

theorem isBareExtension_of_validate {settings : Settings} (valid : settings.validate = .ok ()) :
    isBareExtension settings.extension = true := by
  unfold validate at valid
  split at valid
  · cases valid
  · split at valid
    · cases valid
    · split at valid
      · cases valid
      · rename_i bare
        simpa using bare

/-- No byte of a bare extension separates components, on any system. -/
theorem not_mem_of_isBareExtension {extension : String} (bare : isBareExtension extension = true)
    {byte : UInt8} (separates : byte = 47 ∨ byte = 92) : byte ∉ Utf8.ofString extension := by
  intro mem
  have ascii : byte.toNat < 128 := by rcases separates with rfl | rfl <;> decide
  obtain ⟨character, present, same⟩ := Utf8.exists_char_of_mem mem ascii
  simp only [isBareExtension, Bool.and_eq_true, Bool.not_eq_true', List.any_eq_false,
    Bool.or_eq_true, decide_eq_true_eq, not_or] at bare
  obtain ⟨notSlash, notBackslash⟩ := bare.1 character present
  rcases separates with rfl | rfl
  · exact notSlash (Char.toNat_inj.1 same)
  · exact notBackslash (Char.toNat_inj.1 same)

end Settings

namespace Marker

/-! ### Chain names -/

/-- What can stand as a name after a marker: one or more word bytes. -/
structure IsChainName (name : Bytes) : Prop where
  nonempty : name ≠ []
  words : ∀ byte ∈ name, Bytes.isWord byte = true

theorem isChainName_of_nameAt? {marker : Marker} {line name : Bytes}
    (found : marker.nameAt? line = some name) : IsChainName name := by
  unfold nameAt? at found
  split at found
  · split at found
    · cases found
    · rename_i nonempty
      obtain rfl : (line.drop marker.bytes.length).takeWhile Bytes.isWord = name := by
        simpa using found
      exact ⟨nonempty, fun byte mem => List.mem_takeWhile_imp mem⟩
  · cases found

theorem isChainName_of_name? {marker : Marker} {line name : Bytes}
    (found : marker.name? line = some name) : IsChainName name := by
  induction line with
  | nil => cases found
  | cons byte rest ih =>
      rw [name?] at found
      split at found
      · rename_i here
        exact isChainName_of_nameAt? (here.trans found)
      · exact ih found

end Marker

namespace Generator

/-! ### Accepted generators -/

/-- A generator of accepted settings, whatever its two flags are. -/
def IsAccepted (generator : Generator) : Prop :=
  ∃ settings base, ofSettings settings = .ok base ∧
    generator = { base with dryRun := generator.dryRun, keepGoing := generator.keepGoing }

/-- Accepted settings have a generator. -/
theorem exists_ofSettings {settings : Settings} (valid : settings.validate = .ok ()) :
    ∃ generator, ofSettings settings = .ok generator := by
  have marker := Settings.marker_of_validate valid
  rw [ofSettings, valid]
  exact ⟨_, by rw [Marker.ofString?, dif_pos marker]⟩

/-- A generator comes from accepted settings, and names its files as they say. -/
theorem ofSettings_eq_ok {settings : Settings} {generator : Generator}
    (made : ofSettings settings = .ok generator) :
    settings.validate = .ok () ∧ generator.extension = settings.extension ∧
      generator.outputDirectory = settings.outputDirectory := by
  unfold ofSettings at made
  split at made
  · cases made
  · rename_i valid
    split at made
    · cases made
    · cases made
      exact ⟨valid, rfl, rfl⟩

theorem isAccepted_standard (dryRun keepGoing : Bool) :
    IsAccepted { standard with dryRun, keepGoing } :=
  ⟨Settings.standard, standard, ofSettings_standard, rfl⟩

theorem IsAccepted.isBareExtension {generator : Generator} (accepted : generator.IsAccepted) :
    Settings.isBareExtension generator.extension = true := by
  obtain ⟨settings, base, made, same⟩ := accepted
  obtain ⟨valid, extension, -⟩ := ofSettings_eq_ok made
  have bare := Settings.isBareExtension_of_validate valid
  rw [← extension] at bare
  rw [same]
  exact bare

/-! ### File names -/

/-- A name that every system takes for a single component of a path. -/
structure IsPlainName (name : Name) : Prop where
  nonempty : name ≠ []
  slashFree : 47 ∉ name
  backslashFree : 92 ∉ name
  ne_here : name ≠ Path.here
  ne_above : name ≠ Path.above
  wordFirst : ∃ first rest, name = first :: rest ∧ Bytes.isWord first = true

theorem IsPlainName.isEntryName {name : Name} (plain : IsPlainName name) :
    Path.IsEntryName name where
  ordinary := by simp [Path.isSpecial, plain.nonempty, plain.ne_here, plain.ne_above]
  separated := plain.slashFree

/-- A chain name in small letters consists of word bytes. -/
theorem isWord_of_mem_toLower {chain : Bytes} (named : Marker.IsChainName chain) {byte : UInt8}
    (mem : byte ∈ Bytes.toLower chain) : Bytes.isWord byte = true := by
  obtain ⟨original, present, rfl⟩ := List.mem_map.1 mem
  exact Bytes.isWord_lowerByte (named.words original present)

/-- No separator of either kind gets into a file name. -/
theorem not_mem_fileName {generator : Generator} (accepted : generator.IsAccepted)
    {chain : Bytes} (named : Marker.IsChainName chain) {byte : UInt8}
    (separates : byte = 47 ∨ byte = 92) : byte ∉ generator.fileName chain := by
  intro mem
  rcases List.mem_append.1 mem with inChain | inExtension
  · have word := isWord_of_mem_toLower named inChain
    rcases separates with rfl | rfl <;> revert word <;> decide
  · rcases List.mem_cons.1 inExtension with rfl | later
    · revert separates
      decide
    · exact Settings.not_mem_of_isBareExtension accepted.isBareExtension separates later

theorem wordFirst_fileName (generator : Generator) {chain : Bytes}
    (named : Marker.IsChainName chain) :
    ∃ first rest, generator.fileName chain = first :: rest ∧ Bytes.isWord first = true := by
  cases chain with
  | nil => exact absurd rfl named.nonempty
  | cons first rest => exact ⟨_, _, rfl, isWord_of_mem_toLower named List.mem_cons_self⟩

/-- The file name of a chain is a plain name. -/
theorem isPlainName_fileName {generator : Generator} (accepted : generator.IsAccepted)
    {chain : Bytes} (named : Marker.IsChainName chain) :
    IsPlainName (generator.fileName chain) := by
  have wordFirst := wordFirst_fileName generator named
  -- A dot is no word byte, so a name that starts with a word byte is none of the special ones.
  have undotted : ∀ rest, generator.fileName chain ≠ 46 :: rest := by
    intro rest dotted
    obtain ⟨first, others, whole, word⟩ := wordFirst
    obtain ⟨rfl, -⟩ := List.cons.inj (whole.symm.trans dotted)
    revert word
    decide
  constructor
  · intro empty
    obtain ⟨first, rest, whole, -⟩ := wordFirst
    rw [empty] at whole
    cases whole
  · exact not_mem_fileName accepted named (Or.inl rfl)
  · exact not_mem_fileName accepted named (Or.inr rfl)
  · exact undotted []
  · exact undotted [46]
  · exact wordFirst

/-- Two chains share a file name exactly if they are equal but for the case of ASCII letters. -/
theorem fileName_eq_iff (generator : Generator) (first second : Bytes) :
    generator.fileName first = generator.fileName second ↔ Bytes.EqIgnoringCase first second := by
  rw [fileName, fileName, List.append_left_inj, Bytes.toLower_eq_iff]

/-! ### Launchers -/

theorem launcher?_eq_some {generator : Generator} {line : Bytes} {launcher : Launcher}
    (found : generator.launcher? line = some launcher) :
    Marker.IsChainName launcher.chain ∧
      launcher.fileName = generator.fileName launcher.chain := by
  obtain ⟨chain, named, rfl⟩ := Option.map_eq_some_iff.1 found
  exact ⟨Marker.isChainName_of_name? named, rfl⟩

/-- Every launcher of an accepted generator has a plain file name. -/
theorem IsAccepted.isPlainName {generator : Generator} (accepted : generator.IsAccepted)
    {line : Bytes} {launcher : Launcher} (found : generator.launcher? line = some launcher) :
    IsPlainName launcher.fileName := by
  obtain ⟨named, same⟩ := launcher?_eq_some found
  rw [same]
  exact isPlainName_fileName accepted named

theorem IsAccepted.isEntryName {generator : Generator} (accepted : generator.IsAccepted)
    {line : Bytes} {launcher : Launcher} (found : generator.launcher? line = some launcher) :
    Path.IsEntryName launcher.fileName :=
  (accepted.isPlainName found).isEntryName

end Generator

end ChainLaunchers
