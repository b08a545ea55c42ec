/-
Module: ChainLaunchers.Proofs.Settings.Overlay
Purpose: The default settings overlaid with what the members of a mapping say, whatever their
  order and whatever other members the mapping has.
Trusted boundary: none
Main exports:
  Settings.TextField, Settings.names, Settings.IsMember, Settings.IsSettings,
  Settings.Overlaid, Settings.Overlays, Settings.exists_overlays, Settings.Alike,
  Settings.IsSettings.alike_of_perm, Settings.Overlays.eq_of_alike, Settings.Overlays.unique
-/
import ChainLaunchers.Proofs.Settings.Rules

namespace ChainLaunchers

namespace Settings

open Yaml

/-! ### Members -/

/-- The settings that are texts. -/
inductive TextField where
  | input
  | outputDirectory
  | extension
  | marker
deriving DecidableEq

/-- The name of a text among the settings. -/
def TextField.name : TextField → String
  | .input => "input"
  | .outputDirectory => "output_dir"
  | .extension => "extension"
  | .marker => "marker"

/-- The name of the rules among the settings. -/
def rulesName : String := "rules"

/-- The names of the settings. -/
def names : List String := ["input", "output_dir", "extension", "marker", rulesName]

theorem TextField.name_injective {field other : TextField} (same : field.name = other.name) :
    field = other := by
  revert same
  cases field <;> cases other <;> decide

theorem TextField.name_ne_rulesName (field : TextField) : field.name ≠ rulesName := by
  cases field with
  | _ => decide

theorem TextField.name_mem_names (field : TextField) : field.name ∈ names := by
  cases field with
  | _ => decide

theorem rulesName_mem_names : rulesName ∈ names := by decide

theorem spelling?_ne_of_unknown {key : Node} {name known : String}
    (named : key.spelling? = some name) (unknown : name ∉ names) (mem : known ∈ names) :
    key.spelling? ≠ some known :=
  Node.spelling?_ne named (ne_of_mem_of_not_mem mem unknown).symm

/-- A member of settings: a text, a list of rules, or one that is not known. -/
inductive IsMember : Node × Node → Prop where
  | text (field : TextField) {key value : Node} {text : String}
      (named : key.spelling? = some field.name) (written : value.spelling? = some text) :
      IsMember (key, value)
  | rules {key value : Node} {rules : List Rule} (named : key.spelling? = some rulesName)
      (described : DescribesRules value rules) : IsMember (key, value)
  | other {key value : Node} {name : String} (named : key.spelling? = some name)
      (unknown : name ∉ names) : IsMember (key, value)

/-- The members of settings, in any order; those that are known stand only once. -/
structure IsSettings (members : List (Node × Node)) : Prop where
  each : ∀ member ∈ members, IsMember member
  once : ∀ name ∈ names, IsOnce members name

section Members

variable {members : List (Node × Node)} {value : Node}

theorem IsSettings.exists_text {field : TextField} (settings : IsSettings members)
    (held : Holds members field.name value) : ∃ text, value.spelling? = some text := by
  obtain ⟨key, mem, named⟩ := held
  cases settings.each _ mem with
  | text _ _ written => exact ⟨_, written⟩
  | rules namedRules _ =>
      exact absurd (Option.some.inj (named.symm.trans namedRules)) field.name_ne_rulesName
  | other namedOther unknown =>
      obtain rfl := Option.some.inj (namedOther.symm.trans named)
      exact absurd field.name_mem_names unknown

theorem IsSettings.exists_rules (settings : IsSettings members)
    (held : Holds members rulesName value) : ∃ rules, DescribesRules value rules := by
  obtain ⟨key, mem, named⟩ := held
  cases settings.each _ mem with
  | text field namedText _ =>
      exact absurd (Option.some.inj (namedText.symm.trans named)) field.name_ne_rulesName
  | rules _ described => exact ⟨_, described⟩
  | other namedOther unknown =>
      obtain rfl := Option.some.inj (namedOther.symm.trans named)
      exact absurd rulesName_mem_names unknown

end Members

/-! ### Overlays -/

section Overlays

variable {α β : Type}

/-- The value that the members have under a name, or else the default. -/
inductive Overlaid (members : List (Node × Node)) (name : String) (describes : Node → α → Prop)
    (default : α) : α → Prop where
  | given {node : Node} {content : α} (held : Holds members name node)
      (described : describes node content) : Overlaid members name describes default content
  | absent (missing : ∀ node, ¬Holds members name node) :
      Overlaid members name describes default default

/-- The path that a scalar spells. -/
def SpellsPath (node : Node) (path : Path) : Prop :=
  ∃ text, node.spelling? = some text ∧ path = Utf8.ofString text

/-- The default settings with what the members say in their place. -/
structure Overlays (members : List (Node × Node)) (settings : Settings) : Prop where
  input : Overlaid members "input" SpellsPath standard.input settings.input
  outputDirectory :
    Overlaid members "output_dir" SpellsPath standard.outputDirectory settings.outputDirectory
  extension : Overlaid members "extension" (fun node text => node.spelling? = some text)
    standard.extension settings.extension
  marker : Overlaid members "marker" (fun node text => node.spelling? = some text)
    standard.marker settings.marker
  rules : Overlaid members rulesName DescribesRules standard.rules settings.rules

variable {members others : List (Node × Node)} {name : String} {describes : Node → α → Prop}
  {default content : α}

theorem Overlaid.map {f : α → β} {describes' : Node → β → Prop}
    (carried : ∀ node content, describes node content → describes' node (f content))
    (overlaid : Overlaid members name describes default content) :
    Overlaid members name describes' (f default) (f content) := by
  cases overlaid with
  | given held described => exact .given held (carried _ _ described)
  | absent missing => exact .absent missing

/-- What is overlaid on nothing fills the place of a default. -/
theorem Overlaid.getD {found : Option α} (default : α)
    (overlaid : Overlaid members name
      (fun node found => ∃ content, describes node content ∧ found = some content) none found) :
    Overlaid members name describes default (found.getD default) := by
  refine overlaid.map (f := fun found => found.getD default) ?_
  rintro node _ ⟨content, described, rfl⟩
  exact described

theorem Overlaid.eq_default (missing : ∀ node, ¬Holds members name node)
    (overlaid : Overlaid members name describes default content) : content = default := by
  cases overlaid with
  | given held _ => exact absurd held (missing _)
  | absent _ => rfl

theorem exists_overlaid
    (described : ∀ node, Holds members name node → ∃ content, describes node content) :
    ∃ content, Overlaid members name describes default content := by
  by_cases missing : ∀ node, ¬Holds members name node
  · exact ⟨default, .absent missing⟩
  · push Not at missing
    obtain ⟨node, held⟩ := missing
    obtain ⟨content, told⟩ := described node held
    exact ⟨content, .given held told⟩

/-- What is overlaid is the same for members that hold nodes of the same meaning. -/
theorem Overlaid.eq_of_same {again : α} {same : Node → Node → Prop} (once : IsOnce others name)
    (forth : ∀ node, Holds members name node → ∃ other, Holds others name other ∧ same node other)
    (back : ∀ other, Holds others name other → ∃ node, Holds members name node ∧ same node other)
    (agree : ∀ node other first second, same node other → describes node first →
      describes other second → first = second)
    (overlaid : Overlaid members name describes default content)
    (overlaidToo : Overlaid others name describes default again) : content = again := by
  cases overlaid with
  | given held described =>
      obtain ⟨other, heldToo, alike⟩ := forth _ held
      cases overlaidToo with
      | given heldAgain describedToo =>
          obtain rfl := heldToo.unique once heldAgain
          exact agree _ _ _ _ alike described describedToo
      | absent missing => exact absurd heldToo (missing other)
  | absent missing =>
      refine (overlaidToo.eq_default ?_).symm
      intro other heldToo
      obtain ⟨node, held, -⟩ := back other heldToo
      exact missing node held

theorem Overlaid.eq_of_holds {again : α} (once : IsOnce others name)
    (holds : ∀ node, Holds members name node ↔ Holds others name node)
    (agree : ∀ node first second, describes node first → describes node second → first = second)
    (overlaid : Overlaid members name describes default content)
    (overlaidToo : Overlaid others name describes default again) : content = again := by
  have forth : ∀ node, Holds members name node → ∃ other, Holds others name other ∧ node = other :=
    fun node held => ⟨node, (holds node).1 held, rfl⟩
  have back : ∀ other, Holds others name other → ∃ node, Holds members name node ∧ node = other :=
    fun other held => ⟨other, (holds other).2 held, rfl⟩
  refine overlaid.eq_of_same once forth back ?_ overlaidToo
  rintro node _ first second rfl
  exact agree node first second

end Overlays

/-! ### The same settings -/

variable {members others : List (Node × Node)} {settings : Settings}

theorem SpellsPath.unique (node : Node) (path other : Path) (spells : SpellsPath node path)
    (again : SpellsPath node other) : path = other := by
  obtain ⟨text, written, rfl⟩ := spells
  obtain ⟨_, writtenToo, rfl⟩ := again
  rw [Option.some.inj (written.symm.trans writtenToo)]

/-- Members that say the same about the settings, in whatever order and whatever else they
say. -/
structure Alike (members others : List (Node × Node)) : Prop where
  texts : ∀ (field : TextField) (value : Node),
    Holds members field.name value ↔ Holds others field.name value
  forth : ∀ value, Holds members rulesName value →
    ∃ other, Holds others rulesName other ∧ SameRules value other
  back : ∀ other, Holds others rulesName other →
    ∃ value, Holds members rulesName value ∧ SameRules value other

/-- Any order of the members says the same, with or without those that are not known. -/
theorem IsSettings.alike_of_perm (settings : IsSettings members)
    (perm : (members.filter (isNamedIn names)).Perm (others.filter (isNamedIn names))) :
    Alike members others := by
  have same : ∀ value, Holds members rulesName value → SameRules value value := by
    intro value held
    obtain ⟨rules, described⟩ := settings.exists_rules held
    exact described.sameRules
  constructor
  · intro field value
    exact holds_iff_of_perm perm field.name_mem_names
  · intro value held
    exact ⟨value, (holds_iff_of_perm perm rulesName_mem_names).1 held, same value held⟩
  · intro value held
    have heldHere := (holds_iff_of_perm perm rulesName_mem_names).2 held
    exact ⟨value, heldHere, same value heldHere⟩

/-- Members that say the same have the same overlay. -/
theorem Overlays.eq_of_alike {again : Settings} (isSettings : IsSettings others)
    (alike : Alike members others) (overlays : Overlays members settings)
    (overlaysToo : Overlays others again) : settings = again := by
  have spelled : ∀ (node : Node) (first second : String), node.spelling? = some first →
      node.spelling? = some second → first = second := by
    intro node first second written writtenToo
    exact Option.some.inj (written.symm.trans writtenToo)
  have once := fun field : TextField => isSettings.once _ field.name_mem_names
  have input := overlays.input.eq_of_holds (once .input) (alike.texts .input)
    SpellsPath.unique overlaysToo.input
  have outputDirectory := overlays.outputDirectory.eq_of_holds (once .outputDirectory)
    (alike.texts .outputDirectory) SpellsPath.unique overlaysToo.outputDirectory
  have extension := overlays.extension.eq_of_holds (once .extension) (alike.texts .extension)
    spelled overlaysToo.extension
  have marker := overlays.marker.eq_of_holds (once .marker) (alike.texts .marker) spelled
    overlaysToo.marker
  have rules := overlays.rules.eq_of_same (isSettings.once _ rulesName_mem_names) alike.forth
    alike.back (fun _ _ _ _ same described => described.eq_of_same same) overlaysToo.rules
  obtain ⟨_, _, _, _, _⟩ := settings
  obtain ⟨_, _, _, _, _⟩ := again
  subst input outputDirectory extension marker rules
  rfl

theorem Overlays.unique {again : Settings} (isSettings : IsSettings members)
    (overlays : Overlays members settings) (overlaysToo : Overlays members again) :
    settings = again :=
  overlays.eq_of_alike isSettings (isSettings.alike_of_perm (.refl _)) overlaysToo

theorem exists_overlays (isSettings : IsSettings members) :
    ∃ settings, Overlays members settings := by
  have text : ∀ (field : TextField) (node : Node), Holds members field.name node →
      ∃ text, node.spelling? = some text := fun _ _ => isSettings.exists_text
  have path : ∀ (field : TextField) (node : Node), Holds members field.name node →
      ∃ path, SpellsPath node path := by
    intro field node held
    obtain ⟨written, spelled⟩ := text field node held
    exact ⟨_, written, spelled, rfl⟩
  obtain ⟨input, hasInput⟩ := exists_overlaid (path .input)
  obtain ⟨outputDirectory, hasOutput⟩ := exists_overlaid (path .outputDirectory)
  obtain ⟨extension, hasExtension⟩ := exists_overlaid (text .extension)
  obtain ⟨marker, hasMarker⟩ := exists_overlaid (text .marker)
  obtain ⟨rules, hasRules⟩ := exists_overlaid fun _ => isSettings.exists_rules
  exact ⟨⟨input, outputDirectory, extension, marker, rules⟩,
    ⟨hasInput, hasOutput, hasExtension, hasMarker, hasRules⟩⟩

end Settings

end ChainLaunchers
