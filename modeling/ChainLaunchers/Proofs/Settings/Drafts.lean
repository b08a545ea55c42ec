/-
Module: ChainLaunchers.Proofs.Settings.Drafts
Purpose: The draft that the members of a document come to, and when they come to none.
Trusted boundary: none
Main exports:
  Settings.DraftOf, Settings.IsReadable, Settings.Taken, Settings.taken_foldlM
-/
import ChainLaunchers.Proofs.Settings.Overlay
import Mathlib.Data.List.Induction

namespace ChainLaunchers

namespace Settings

open Yaml

/-! ### Drafts -/

variable {document : Document} {members before : List (Node × Node)} {member : Node × Node}
  {draft : Draft}

theorem IsSettings.init (settings : IsSettings (before ++ [member])) : IsSettings before := by
  constructor
  · intro earlier mem
    exact settings.each earlier (List.mem_append_left _ mem)
  · intro name known
    exact (settings.once name known).init

theorem Overlaid.concat {α : Type} {name : String} {describes : Node → α → Prop}
    {default content : α} (other : member.1.spelling? ≠ some name)
    (overlaid : Overlaid before name describes default content) :
    Overlaid (before ++ [member]) name describes default content := by
  cases overlaid with
  | given held described => exact .given ((holds_concat_iff other).2 held) described
  | absent missing => exact .absent fun node held => missing node ((holds_concat_iff other).1 held)

/-- The text that a draft has for a field. -/
def Draft.text? (draft : Draft) : TextField → Option String
  | .input => draft.input
  | .outputDirectory => draft.outputDirectory
  | .extension => draft.extension
  | .marker => draft.marker

/-- The draft with a text for a field. -/
def Draft.withText (draft : Draft) (field : TextField) (text : String) : Draft :=
  match field with
  | .input => { draft with input := some text }
  | .outputDirectory => { draft with outputDirectory := some text }
  | .extension => { draft with extension := some text }
  | .marker => { draft with marker := some text }

theorem Draft.text?_withText_self (draft : Draft) (field : TextField) (text : String) :
    (draft.withText field text).text? field = some text := by
  cases field with
  | _ => rfl

theorem Draft.text?_withText_of_ne {field other : TextField} (ne : other ≠ field) (text : String) :
    (draft.withText field text).text? other = draft.text? other := by
  cases field <;> cases other <;> first | rfl | exact absurd rfl ne

theorem Draft.rules_withText (draft : Draft) (field : TextField) (text : String) :
    (draft.withText field text).rules = draft.rules := by
  cases field with
  | _ => rfl

/-- What a draft has when it has taken in the members. -/
structure DraftOf (members : List (Node × Node)) (draft : Draft) : Prop where
  texts : ∀ field : TextField, Overlaid members field.name
    (fun node found => ∃ text, node.spelling? = some text ∧ found = some text) none
    (draft.text? field)
  rules : Overlaid members rulesName
    (fun node found => ∃ rules, DescribesRules node rules ∧ found = some rules) none draft.rules

theorem DraftOf.withText {field : TextField} {key value : Node} {text : String}
    (draftOf : DraftOf before draft) (named : key.spelling? = some field.name)
    (written : value.spelling? = some text) :
    DraftOf (before ++ [(key, value)]) (draft.withText field text) := by
  constructor
  · intro other
    by_cases same : other = field
    · subst same
      rw [Draft.text?_withText_self]
      exact .given (holds_concat_self named) ⟨text, written, rfl⟩
    · rw [Draft.text?_withText_of_ne same]
      exact (draftOf.texts other).concat
        (Node.spelling?_ne named fun equal => same (TextField.name_injective equal).symm)
  · rw [Draft.rules_withText]
    exact draftOf.rules.concat (Node.spelling?_ne named field.name_ne_rulesName)

theorem DraftOf.withRules {key value : Node} {rules : List Rule} (draftOf : DraftOf before draft)
    (named : key.spelling? = some rulesName) (described : DescribesRules value rules) :
    DraftOf (before ++ [(key, value)]) { draft with rules := some rules } := by
  constructor
  · intro other
    have kept : ({ draft with rules := some rules } : Draft).text? other = draft.text? other := by
      cases other with
      | _ => rfl
    rw [kept]
    exact (draftOf.texts other).concat (Node.spelling?_ne named other.name_ne_rulesName.symm)
  · exact .given (holds_concat_self named) ⟨rules, described, rfl⟩

theorem DraftOf.passOver {key value : Node} {name : String} (draftOf : DraftOf before draft)
    (named : key.spelling? = some name) (unknown : name ∉ names) :
    DraftOf (before ++ [(key, value)]) draft := by
  constructor
  · intro field
    exact (draftOf.texts field).concat
      (spelling?_ne_of_unknown named unknown field.name_mem_names)
  · exact draftOf.rules.concat (spelling?_ne_of_unknown named unknown rulesName_mem_names)

/-! ### Taking members in -/

/-- How deep collections may be nested in the list of rules. -/
def rulesDepth : Nat := depthLimit - 2

/-- Every rule can be read as a value of any type: its tags name known types that their nodes have,
its integers fit, and its aliases lead somewhere and are not followed too often. -/
def IsReadable (document : Document) (members : List (Node × Node)) : Prop :=
  ∀ tag nodes, Holds members rulesName (.sequence tag nodes) →
    ((nodes.mapM (typed document rulesDepth)).run 0).isSome = true

variable {key value : Node} {depth count : Nat}

theorem takeMember_text {field : TextField} {text : String}
    (named : key.spelling? = some field.name) (written : value.spelling? = some text)
    (free : draft.text? field = none) :
    takeMember document depth draft (key, value) = pure (draft.withText field text) := by
  rw [takeMember, spelling_eq_pure named, pure_bind]
  cases field with
  | input =>
      have free : draft.input = none := free
      rw [if_pos (by rfl), free, spelling_eq_pure written]
      rfl
  | outputDirectory =>
      have free : draft.outputDirectory = none := free
      rw [if_neg (by decide), if_pos (by rfl), free, spelling_eq_pure written]
      rfl
  | extension =>
      have free : draft.extension = none := free
      rw [if_neg (by decide), if_neg (by decide), if_pos (by rfl), free,
        spelling_eq_pure written]
      rfl
  | marker =>
      have free : draft.marker = none := free
      rw [if_neg (by decide), if_neg (by decide), if_neg (by decide), if_pos (by rfl), free,
        spelling_eq_pure written]
      rfl

theorem takeMember_rules (named : key.spelling? = some rulesName) (free : draft.rules = none) :
    takeMember document depth draft (key, value) = (do
      return { draft with rules := some (← ruleList document depth value) }) := by
  rw [takeMember, spelling_eq_pure named, pure_bind, if_neg (by decide), if_neg (by decide),
    if_neg (by decide), if_neg (by decide), if_pos (by rfl), free]
  rfl

theorem takeMember_other {name : String} (named : key.spelling? = some name)
    (unknown : name ∉ names) : takeMember document depth draft (key, value) = pure draft := by
  simp only [names, rulesName, List.mem_cons, List.not_mem_nil, or_false, not_or] at unknown
  obtain ⟨input, outputDirectory, extension, marker, rules⟩ := unknown
  rw [takeMember, spelling_eq_pure named, pure_bind, if_neg input, if_neg outputDirectory,
    if_neg extension, if_neg marker, if_neg rules]

/-- What taking the members in comes to. -/
inductive Taken (document : Document) (members : List (Node × Node)) :
    Option (Draft × Nat) → Prop where
  | stopped (unreadable : ¬IsReadable document members) : Taken document members none
  | taken {draft : Draft} {count : Nat} (readable : IsReadable document members)
      (draftOf : DraftOf members draft)
      (unfollowed : (∀ node, ¬Holds members rulesName node) → count = 0) :
      Taken document members (some (draft, count))

theorem isReadable_concat_iff (other : member.1.spelling? ≠ some rulesName) :
    IsReadable document (before ++ [member]) ↔ IsReadable document before := by
  simp only [IsReadable, holds_concat_iff other]

/-- A member that is not the rules follows no aliases. -/
theorem Taken.kept {next : Draft} (other : member.1.spelling? ≠ some rulesName)
    (readable : IsReadable document before) (draftOf : DraftOf (before ++ [member]) next)
    (unfollowed : (∀ node, ¬Holds before rulesName node) → count = 0) :
    Taken document (before ++ [member]) (some (next, count)) := by
  refine .taken ((isReadable_concat_iff other).2 readable) draftOf ?_
  intro missing
  exact unfollowed fun node held => missing node held.concat

/-- The rules are taken in if they are readable. -/
theorem Taken.rules {rules : List Rule} (named : key.spelling? = some rulesName)
    (described : DescribesRules value rules) (once : IsOnce (before ++ [(key, value)]) rulesName)
    (draftOf : DraftOf before draft) :
    Taken document (before ++ [(key, value)])
      ((takeMember document (rulesDepth + 1) draft (key, value)).run 0) := by
  have free : draft.rules = none := draftOf.rules.eq_default (once.not_holds named)
  have next := draftOf.withRules named described
  obtain ⟨tag, nodes, rfl, each⟩ := described
  have readable_iff : IsReadable document (before ++ [(key, .sequence tag nodes)]) ↔
      ((nodes.mapM (typed document rulesDepth)).run 0).isSome = true := by
    constructor
    · intro readable
      exact readable tag nodes (holds_concat_self named)
    · intro read other others held
      obtain ⟨rfl, rfl⟩ := Node.sequence.inj (held.unique once (holds_concat_self named))
      exact read
  have ran : (ruleList document (rulesDepth + 1) (.sequence tag nodes)).run 0 =
      ((nodes.mapM (typed document rulesDepth)).run 0).map fun found => (rules, found.2) :=
    run_ruleList each 0
  rw [takeMember_rules named free, StateT.run_bind, ran]
  cases read : (nodes.mapM (typed document rulesDepth)).run 0 with
  | none =>
      rw [read] at readable_iff
      exact .stopped fun readable => nomatch readable_iff.1 readable
  | some found =>
      rw [read] at readable_iff
      refine .taken (readable_iff.2 rfl) next ?_
      intro missing
      exact absurd (holds_concat_self named) (missing _)

theorem taken_nil : Taken document [] (some ({}, 0)) := by
  refine .taken ?_ ⟨?_, ?_⟩ fun _ => rfl
  · rintro tag nodes ⟨key, mem, -⟩
    cases mem
  · intro field
    cases field with
    | _ => exact .absent fun node ⟨_, mem, _⟩ => nomatch mem
  · exact .absent fun node ⟨_, mem, _⟩ => nomatch mem

theorem Taken.concat_stopped (stopped : Taken document before none) :
    Taken document (before ++ [member]) none := by
  cases stopped with
  | stopped unreadable =>
      refine .stopped fun readable => unreadable ?_
      intro tag nodes held
      exact readable tag nodes held.concat

/-- One more member is taken in, whichever it is. -/
theorem Taken.concat (settings : IsSettings (before ++ [member]))
    (sofar : Taken document before (some (draft, count))) :
    Taken document (before ++ [member])
      ((takeMember document (rulesDepth + 1) draft member).run count) := by
  cases sofar with
  | taken readable draftOf unfollowed =>
      cases settings.each member (List.mem_append_right _ List.mem_cons_self) with
      | text field named written =>
          have missing := (settings.once _ field.name_mem_names).not_holds named
          have free : draft.text? field = none := (draftOf.texts field).eq_default missing
          rw [takeMember_text named written free]
          exact .kept (Node.spelling?_ne named field.name_ne_rulesName) readable
            (draftOf.withText named written) unfollowed
      | rules named described =>
          -- Nothing has been followed yet, since only rules follow anything.
          have once := settings.once rulesName rulesName_mem_names
          obtain rfl := unfollowed (once.not_holds named)
          exact .rules named described once draftOf
      | other named unknown =>
          rw [takeMember_other named unknown]
          exact .kept (spelling?_ne_of_unknown named unknown rulesName_mem_names) readable
            (draftOf.passOver named unknown) unfollowed

/-- Only a list of rules can stop the members from being taken in, and only aliases in rules are
followed. -/
theorem taken_foldlM (settings : IsSettings members) :
    Taken document members ((members.foldlM (takeMember document (rulesDepth + 1)) {}).run 0) := by
  induction members using List.reverseRecOn with
  | nil => exact taken_nil
  | append_singleton before member ih =>
      have sofar := ih settings.init
      rw [List.foldlM_append, StateT.run_bind]
      cases ran : (before.foldlM (takeMember document (rulesDepth + 1)) {}).run 0 with
      | none =>
          rw [ran] at sofar
          exact sofar.concat_stopped
      | some outcome =>
          rw [ran] at sofar
          rw [Option.bind_eq_bind, Option.bind_some, List.foldlM_cons]
          simp only [List.foldlM_nil, bind_pure]
          exact sofar.concat settings

end Settings

end ChainLaunchers
