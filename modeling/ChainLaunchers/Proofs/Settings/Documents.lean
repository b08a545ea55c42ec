/-
Module: ChainLaunchers.Proofs.Settings.Documents
Purpose: A document describes the default settings overlaid with what it says, unless a rule of it
  cannot be read.
Trusted boundary: none
Main exports:
  Settings.OverlaysDefaults, Settings.overlays_defaults, Settings.tagged_note_is_refused
-/
import ChainLaunchers.Proofs.Settings.Acceptance
import ChainLaunchers.Proofs.Settings.Drafts
import ChainLaunchers.Proofs.Yaml.BlankText

namespace ChainLaunchers

namespace Settings

open Yaml

variable {text : String} {document : Document} {tag : Option Tag} {members : List (Node × Node)}

/-! ### Results -/

theorem DraftOf.overlays {draft : Draft} (draftOf : DraftOf members draft) :
    Overlays members draft.complete := by
  have paths : ∀ field : TextField, Overlaid members field.name
      (fun node found => ∃ path, SpellsPath node path ∧ found = some path) none
      ((draft.text? field).map Utf8.ofString) := by
    intro field
    refine (draftOf.texts field).map (f := Option.map Utf8.ofString) ?_
    rintro node _ ⟨text, written, rfl⟩
    exact ⟨_, ⟨text, written, rfl⟩, rfl⟩
  exact ⟨(paths .input).getD _, (paths .outputDirectory).getD _, (draftOf.texts .extension).getD _,
    (draftOf.texts .marker).getD _, draftOf.rules.getD _⟩

theorem draft_of_mapping (root : document.root = some (.mapping tag members)) :
    draft document = members.foldlM (takeMember document (rulesDepth + 1)) {} := by
  rw [draft, root]
  rfl

theorem taken_of_mapping (root : document.root = some (.mapping tag members))
    (isSettings : IsSettings members) : Taken document members ((draft document).run 0) := by
  rw [draft_of_mapping root]
  exact taken_foldlM isSettings

theorem ofDocument_eq_accepted {settings : Settings}
    (root : document.root = some (.mapping tag members)) (isSettings : IsSettings members)
    (readable : IsReadable document members) (overlays : Overlays members settings) :
    ofDocument document = settings.accepted := by
  have taken := taken_of_mapping root isSettings
  rw [ofDocument, ofDocument?, StateT.run'_eq]
  cases ran : (draft document).run 0 with
  | none =>
      rw [ran] at taken
      cases taken with
      | stopped unreadable => exact absurd readable unreadable
  | some outcome =>
      rw [ran] at taken
      cases taken with
      | taken _ draftOf _ =>
          rw [← draftOf.overlays.unique isSettings overlays]
          rfl

theorem ofDocument_eq_malformed (root : document.root = some (.mapping tag members))
    (isSettings : IsSettings members) (unreadable : ¬IsReadable document members) :
    ofDocument document = .error .malformed := by
  have taken := taken_of_mapping root isSettings
  rw [ofDocument, ofDocument?, StateT.run'_eq]
  cases ran : (draft document).run 0 with
  | none => rfl
  | some outcome =>
      rw [ran] at taken
      cases taken with
      | taken readable _ _ => exact absurd readable unreadable

/-- Legible rules follow no aliases, so that nothing can stop their reading. -/
theorem isReadable_of_isLegible
    (legible : ∀ tag nodes, Holds members rulesName (.sequence tag nodes) →
      ∀ node ∈ nodes, IsLegible rulesDepth node) : IsReadable document members := by
  intro tag nodes held
  obtain ⟨values, read⟩ := exists_mapM_eq_pure fun node mem =>
    exists_typed_eq_pure (legible tag nodes held node mem)
  rw [read]
  rfl

theorem ofYaml_eq_ofDocument (parsed : Document.ofText? text = some document)
    (root : document.root = some (.mapping tag members)) : ofYaml text = ofDocument document := by
  unfold ofYaml
  split
  · rename_i white
    exact absurd root (Document.root_of_isBlankText white parsed tag members)
  · rw [parsed]

/-- What a text says whose document is a mapping with the given members. -/
structure OverlaysDefaults (text : String) (document : Document) (members : List (Node × Node)) :
    Prop where
  /-- There is one overlay of the default settings. -/
  determined : ∃! settings, Overlays members settings
  /-- If the rules are readable, it is the result if it is acceptable. -/
  accepted : IsReadable document members → ∀ settings, Overlays members settings →
    (ofYaml text = .ok settings ↔ settings.validate = .ok ())
  /-- If it is not acceptable, its fault is the result. -/
  refused : IsReadable document members → ∀ settings, Overlays members settings →
    ∀ fault, (ofYaml text = .error fault ↔ settings.validate = .error fault)
  /-- If the rules are not readable, nothing else counts. -/
  malformed : ¬IsReadable document members → ofYaml text = .error .malformed
  /-- Rules without aliases are readable as soon as each of their scalars has a value. -/
  legible : (∀ tag nodes, Holds members rulesName (.sequence tag nodes) →
    ∀ node ∈ nodes, IsLegible rulesDepth node) → IsReadable document members
  /-- Another order of the members, here or in the rules, and other members that are not known
  change nothing. -/
  rearranged : ∀ other again tag others, Document.ofText? other = some again →
    again.root = some (.mapping tag others) → IsSettings others → Alike members others →
      IsReadable document members → IsReadable again others → ofYaml other = ofYaml text

/-- A document overlays the default settings. -/
theorem overlays_defaults (parsed : Document.ofText? text = some document)
    (root : document.root = some (.mapping tag members)) (isSettings : IsSettings members) :
    OverlaysDefaults text document members := by
  have read := ofYaml_eq_ofDocument parsed root
  constructor
  · obtain ⟨settings, overlays⟩ := exists_overlays isSettings
    exact ⟨settings, overlays, fun _ overlaysToo => overlaysToo.unique isSettings overlays⟩
  · intro readable settings overlays
    rw [read, ofDocument_eq_accepted root isSettings readable overlays, accepted_eq_ok_iff,
      and_iff_left rfl]
  · intro readable settings overlays fault
    rw [read, ofDocument_eq_accepted root isSettings readable overlays, accepted_eq_error_iff]
  · intro unreadable
    rw [read, ofDocument_eq_malformed root isSettings unreadable]
  · exact isReadable_of_isLegible
  · intro other again tag' others parsedToo rootToo isSettingsToo alike readable readableToo
    obtain ⟨settings, overlays⟩ := exists_overlays isSettings
    obtain ⟨settings', overlaysToo⟩ := exists_overlays isSettingsToo
    obtain rfl := overlays.eq_of_alike isSettingsToo alike overlaysToo
    rw [read, ofYaml_eq_ofDocument parsedToo rootToo,
      ofDocument_eq_accepted root isSettings readable overlays,
      ofDocument_eq_accepted rootToo isSettingsToo readableToo overlaysToo]

/-! ### A rule with a note -/

/-- A text whose only rule has a member that no rule knows. -/
def noted (note : String) : String :=
  "rules:\n- note: " ++ note ++ "\n  literal: 'x'\n  kind: 'remove'\nother: 5\n"

/-- Its tokens, with those of the note. -/
def notedTokens (note : List Token) : List Token :=
  [.blockMappingStart, .key, .scalar .plain "rules".toList, .value, .blockEntry,
    .blockMappingStart, .key, .scalar .plain "note".toList, .value] ++ note ++
  [.key, .scalar .plain "literal".toList, .value, .scalar .marked "x".toList,
    .key, .scalar .plain "kind".toList, .value, .scalar .marked "remove".toList, .blockEnd,
    .key, .scalar .plain "other".toList, .value, .scalar .plain "5".toList, .blockEnd]

/-- A plain scalar without a tag. -/
def plainNode (text : String) : Node := .scalar none .plain text

/-- Its rule, with the node of the note. -/
def notedRule (note : Node) : Node :=
  .mapping none [(plainNode "note", note), (plainNode "literal", .scalar none .marked "x"),
    (plainNode "kind", .scalar none .marked "remove")]

/-- Its members. -/
def notedMembers (note : Node) : List (Node × Node) :=
  [(plainNode "rules", .sequence none [notedRule note]), (plainNode "other", plainNode "5")]

/-- Its document. -/
def notedDocument (note : Node) : Document := ⟨some (.mapping none (notedMembers note)), [], 15⟩

/-- The settings that it describes. -/
def notedSettings : Settings := { standard with rules := [.remove "x"] }

theorem ofText?_noted {note : String} {tokens : List Token} {node : Node}
    (scanned : Token.ofText? (noted note) = some (notedTokens tokens))
    (composed : Document.ofTokens? (notedTokens tokens) = some (notedDocument node)) :
    Document.ofText? (noted note) = some (notedDocument node) := by
  rw [Document.ofText?, scanned]
  exact composed

theorem describesRule_noted (note : Node) : DescribesRule (notedRule note) (.remove "x") := by
  refine .remove ⟨?_, of_decide_eq_true rfl⟩
    ⟨_, ⟨plainNode "kind", .tail _ (.tail _ (.head _)), rfl⟩, Node.isText_quoted "remove"⟩
    ⟨_, ⟨plainNode "literal", .tail _ (.head _), rfl⟩, Node.isText_quoted "x"⟩
  rintro _ (_ | ⟨_, _ | ⟨_, _ | ⟨_, ⟨⟩⟩⟩⟩)
  · exact .of_isText (Node.isText_plain (by decide +kernel))
  · exact .of_isText (Node.isText_plain (by decide +kernel))
  · exact .of_isText (Node.isText_plain (by decide +kernel))

theorem describesRules_noted (note : Node) :
    DescribesRules (.sequence none [notedRule note]) [.remove "x"] :=
  ⟨none, _, rfl, .cons (describesRule_noted note) .nil⟩

theorem isSettings_noted (note : Node) : IsSettings (notedMembers note) := by
  refine ⟨?_, of_decide_eq_true rfl⟩
  rintro _ (_ | ⟨_, _ | ⟨_, ⟨⟩⟩⟩)
  · exact .rules rfl (describesRules_noted note)
  · exact .other rfl (by decide)

theorem overlays_noted (note : Node) : Overlays (notedMembers note) notedSettings := by
  have absent : ∀ field : TextField, ∀ node, ¬Holds (notedMembers note) field.name node := by
    rintro field node ⟨key, mem, named⟩
    rcases mem with _ | ⟨_, _ | ⟨_, ⟨⟩⟩⟩
    · exact field.name_ne_rulesName (Option.some.inj named).symm
    · have unknown : "other" ∉ names := by decide
      exact unknown (Option.some.inj named ▸ field.name_mem_names)
  exact ⟨.absent (absent .input), .absent (absent .outputDirectory), .absent (absent .extension),
    .absent (absent .marker),
    .given ⟨plainNode "rules", .head _, rfl⟩ (describesRules_noted note)⟩

/-- A note that is a number is read and passed over. -/
theorem overlays_defaults_of_note :
    Document.ofText? (noted "5") = some (notedDocument (plainNode "5")) ∧
      IsSettings (notedMembers (plainNode "5")) ∧ ofYaml (noted "5") = .ok notedSettings := by
  have scanned : Token.ofText? (noted "5") = some (notedTokens [.scalar .plain "5".toList]) := by
    decide +kernel
  have parsed : Document.ofText? (noted "5") = some (notedDocument (plainNode "5")) :=
    ofText?_noted scanned (by rfl)
  have isSettings := isSettings_noted (plainNode "5")
  have overlays := overlays_defaults parsed rfl isSettings
  have readable : IsReadable (notedDocument (plainNode "5")) (notedMembers (plainNode "5")) := by
    rintro tag nodes ⟨key, mem, named⟩
    rcases mem with _ | ⟨_, _ | ⟨_, ⟨⟩⟩⟩
    decide +kernel
  exact ⟨parsed, isSettings, (overlays.accepted readable _ (overlays_noted _)).2 rfl⟩

/-- A note of a type that is not known. -/
def taggedNote : Node := .scalar (some (Utf8.ofString "!size")) .plain "5"

/-- Although no rule knows the note, its type has to be known. -/
theorem tagged_note_is_refused :
    Document.ofText? (noted "!size 5") = some (notedDocument taggedNote) ∧
      (notedDocument taggedNote).root = some (.mapping none (notedMembers taggedNote)) ∧
      IsSettings (notedMembers taggedNote) ∧ Overlays (notedMembers taggedNote) notedSettings ∧
      notedSettings.validate = .ok () ∧ ofYaml (noted "!size 5") = .error .malformed := by
  have scanned : Token.ofText? (noted "!size 5") =
      some (notedTokens [.tag ['!'] (Utf8.ofString "size"), .scalar .plain "5".toList]) := by
    decide +kernel
  have parsed : Document.ofText? (noted "!size 5") = some (notedDocument taggedNote) :=
    ofText?_noted scanned (by rfl)
  have isSettings := isSettings_noted taggedNote
  have unreadable : ¬IsReadable (notedDocument taggedNote) (notedMembers taggedNote) := by
    intro readable
    have read := readable none [notedRule taggedNote] ⟨plainNode "rules", .head _, rfl⟩
    exact absurd read (by decide +kernel)
  refine ⟨parsed, rfl, isSettings, overlays_noted taggedNote, rfl, ?_⟩
  rw [ofYaml_eq_ofDocument parsed rfl, ofDocument_eq_malformed rfl isSettings unreadable]

end Settings

end ChainLaunchers
