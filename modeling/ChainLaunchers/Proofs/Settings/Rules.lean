/-
Module: ChainLaunchers.Proofs.Settings.Rules
Purpose: The rules that a list of mappings describes.
Trusted boundary: none
Main exports:
  Settings.IsRuleKey, Settings.RuleMembers, Settings.DescribesRule, Settings.DescribesRules,
  Settings.SameRules, Settings.sameRule_of_perm, Settings.DescribesRules.eq_of_same,
  Settings.run_ruleList
-/
import ChainLaunchers.Proofs.Rule.Members
import ChainLaunchers.Proofs.Settings.TypedValues

namespace ChainLaunchers

namespace Settings

open Yaml

/-! ### Descriptions -/

/-- A scalar that a rule of the kind may have as a key: if it has a value at all, that is a text,
or a number that is no position of a field. -/
def IsRuleKey (kind : Rule.Kind) (key : Node) : Prop :=
  (∃ text, key.spelling? = some text) ∧ ∀ value, key.Means value → Rule.IsKey kind value

theorem IsRuleKey.of_isText {kind : Rule.Kind} {key : Node} {text : String}
    (isText : key.IsText text) : IsRuleKey kind key := by
  refine ⟨⟨text, isText.spelling?⟩, ?_⟩
  intro value means
  rw [isText.eq_of_means means]
  exact .text text

/-- The members of a rule of the kind, in any order, with any others between them. -/
structure RuleMembers (kind : Rule.Kind) (members : List (Node × Node)) : Prop where
  keys : ∀ member ∈ members, IsRuleKey kind member.1
  once : ∀ name ∈ Rule.kindKey :: kind.fields, IsOnce members name

/-- The rule that a mapping describes. -/
inductive DescribesRule : Node → Rule → Prop where
  | replace {tag : Option Tag} {members : List (Node × Node)} {pattern replacement : String}
      (shape : RuleMembers .replace members) (kind : Gives members "kind" "replace")
      (sought : Gives members "from" pattern) (inserted : Gives members "to" replacement) :
      DescribesRule (.mapping tag members) (.replace pattern replacement)
  | remove {tag : Option Tag} {members : List (Node × Node)} {pattern : String}
      (shape : RuleMembers .remove members) (kind : Gives members "kind" "remove")
      (sought : Gives members "literal" pattern) :
      DescribesRule (.mapping tag members) (.remove pattern)

/-- The rules that a list describes, in their order. -/
def DescribesRules (node : Node) (rules : List Rule) : Prop :=
  ∃ tag nodes, node = .sequence tag nodes ∧ List.Forall₂ DescribesRule nodes rules

/-- Two mappings with the same kind and the same fields of this kind, in whatever order they stand
and whatever other members the two have. -/
inductive SameRule : Node → Node → Prop where
  | intro (kind : Rule.Kind) {tag tag' : Option Tag} {members others : List (Node × Node)}
      (given : Gives members Rule.kindKey kind.name)
      (same : ∀ name ∈ Rule.kindKey :: kind.fields, ∀ value,
        Holds members name value ↔ Holds others name value) :
      SameRule (.mapping tag members) (.mapping tag' others)

/-- Two lists of such mappings. -/
def SameRules (node other : Node) : Prop :=
  ∃ tag nodes tag' others, node = .sequence tag nodes ∧ other = .sequence tag' others ∧
    List.Forall₂ SameRule nodes others

variable {document : Document} {node other : Node} {rule : Rule} {rules : List Rule}

/-- What the two kinds of rules have in common. -/
theorem DescribesRule.exists_fields (described : DescribesRule node rule) :
    ∃ (kind : Rule.Kind) (tag : Option Tag) (members : List (Node × Node)) (texts : List String),
      node = .mapping tag members ∧ RuleMembers kind members ∧
      Gives members Rule.kindKey kind.name ∧ List.Forall₂ (Gives members) kind.fields texts ∧
      kind.rule? texts = some rule := by
  cases described with
  | replace shape kind sought inserted =>
      exact ⟨.replace, _, _, _, rfl, shape, kind, .cons sought (.cons inserted .nil), rfl⟩
  | remove shape kind sought =>
      exact ⟨.remove, _, _, _, rfl, shape, kind, .cons sought .nil, rfl⟩

/-- Any order of the members describes the same rule, with or without those that its kind does not
know. -/
theorem sameRule_of_perm {kind : Rule.Kind} {tag tag' : Option Tag}
    {members others : List (Node × Node)} (given : Gives members Rule.kindKey kind.name)
    (perm : (members.filter (isNamedIn (Rule.kindKey :: kind.fields))).Perm
      (others.filter (isNamedIn (Rule.kindKey :: kind.fields)))) :
    SameRule (.mapping tag members) (.mapping tag' others) :=
  .intro kind given fun _ known _ => holds_iff_of_perm perm known

theorem DescribesRule.sameRule (described : DescribesRule node rule) : SameRule node node := by
  obtain ⟨kind, tag, members, texts, rfl, shape, given, fields, made⟩ := described.exists_fields
  exact sameRule_of_perm given (.refl _)

/-- The same kind and the same fields describe the same rule. -/
theorem DescribesRule.eq_of_same {again : Rule} (described : DescribesRule node rule)
    (same : SameRule node other) (describedToo : DescribesRule other again) : rule = again := by
  obtain ⟨kind, _, members, texts, rfl, shape, given, fields, made⟩ := described.exists_fields
  obtain ⟨kind', _, others, texts', rfl, shape', given', fields', made'⟩ :=
    describedToo.exists_fields
  cases same with
  | intro common givenCommon same =>
      obtain rfl := Rule.Kind.name_injective
        (givenCommon.unique (shape.once _ List.mem_cons_self) given)
      have first := givenCommon.of_same (same _ List.mem_cons_self)
      obtain rfl := Rule.Kind.name_injective
        (first.unique (shape'.once _ List.mem_cons_self) given')
      have carried : List.Forall₂ (fun name text => name ∈ common.fields ∧ Gives others name text)
          common.fields texts :=
        ((List.forall₂_and_left _ _).2 ⟨fun _ mem => mem, fields⟩).imp fun name _ here =>
          ⟨here.1, here.2.of_same (same name (List.mem_cons_of_mem _ here.1))⟩
      have own := (List.forall₂_and_left _ _).2 ⟨fun _ mem => mem, fields'⟩
      obtain rfl : texts = texts' := by
        refine List.right_unique_forall₂' ?_ carried own
        intro name _ _ here there
        exact here.2.unique (shape'.once name (List.mem_cons_of_mem _ here.1)) there.2
      exact Option.some.inj (made.symm.trans made')

theorem DescribesRules.eq_of_same {again : List Rule} (described : DescribesRules node rules)
    (same : SameRules node other) (describedToo : DescribesRules other again) : rules = again := by
  obtain ⟨_, nodes, rfl, each⟩ := described
  obtain ⟨_, others, rfl, eachToo⟩ := describedToo
  obtain ⟨_, _, _, _, ⟨⟩, ⟨⟩, pairs⟩ := same
  induction each generalizing others again with
  | nil =>
      obtain rfl := List.forall₂_nil_left_iff.1 pairs
      exact (List.forall₂_nil_left_iff.1 eachToo).symm
  | cons first _ ih =>
      cases pairs with
      | cons alike rest =>
          cases eachToo with
          | cons firstToo restToo =>
              rw [first.eq_of_same alike firstToo, ih _ restToo rest]

theorem DescribesRules.sameRules (described : DescribesRules node rules) :
    SameRules node node := by
  obtain ⟨tag, nodes, rfl, each⟩ := described
  have refl : List.Forall₂ (fun node (_ : Rule) => SameRule node node ∧ True) nodes rules :=
    each.imp fun _ _ here => ⟨here.sameRule, trivial⟩
  exact ⟨tag, nodes, tag, nodes, rfl, rfl,
    List.forall₂_same.2 ((List.forall₂_and_left _ _).1 refl).1⟩

/-! ### Reading -/

variable {kind : Rule.Kind} {members : List (Node × Node)} {depth : Nat}

/-- The names that a rule knows are words, which spell no numbers. -/
theorem integer?_eq_none {name : String} (known : name ∈ Rule.kindKey :: kind.fields) :
    ScalarValue.integer? name = none := by
  cases kind with
  | replace =>
      revert name
      decide +kernel
  | remove =>
      revert name
      decide +kernel

/-- A key has a name that the rule knows if its value is that name. -/
theorem text?_eq_some_iff_of_means {key : Node} {value : Value} {name : String}
    (fit : IsRuleKey kind key) (means : key.Means value)
    (known : name ∈ Rule.kindKey :: kind.fields) :
    value.text? = some name ↔ key.spelling? = some name := by
  obtain ⟨⟨written, spelled⟩, fits⟩ := fit
  have spells := Node.spells_of_means spelled means
  rw [spelled]
  cases fits value means with
  | text content =>
      rw [show content = written from spells, Value.text?]
  | number beyond =>
      refine iff_of_false (by simp only [Value.text?, reduceCtorEq, not_false_eq_true]) ?_
      intro same
      obtain rfl := Option.some.inj same
      rw [ScalarValue.Spells, integer?_eq_none known] at spells
      cases spells

/-- A member that is given as a text among the nodes is told among their values. -/
theorem tells_of_gives {values : List (Value × Value)} {name text : String}
    (shape : RuleMembers kind members)
    (read : List.Forall₂ (fun member value => member.1.Means value.1 ∧ member.2.Means value.2)
      members values)
    (known : name ∈ Rule.kindKey :: kind.fields) (given : Gives members name text) :
    Rule.Tells values name text := by
  obtain ⟨value, held, isText⟩ := given
  obtain ⟨key, spelled, only⟩ := held.exists_filter_eq (shape.once name known)
  have agree : ∀ ⦃member : Node × Node⦄ ⦃pair : Value × Value⦄,
      (IsRuleKey kind member.1 ∧ member.1.Means pair.1 ∧ member.2.Means pair.2) →
        (isNamed name member = true ↔ Rule.isNamed name pair = true) := by
    rintro member pair ⟨fit, means, -⟩
    rw [isNamed, Rule.isNamed, decide_eq_true_iff, decide_eq_true_iff,
      text?_eq_some_iff_of_means fit means known]
  have filtered := List.rel_filter agree ((List.forall₂_and_left _ _).2 ⟨shape.keys, read⟩)
  rw [only] at filtered
  obtain ⟨pair, rest, ⟨fit, means, meansValue⟩, last, found⟩ :=
    List.forall₂_cons_left_iff.1 filtered
  obtain rfl := List.forall₂_nil_left_iff.1 last
  have named := (text?_eq_some_iff_of_means fit means known).2 spelled
  obtain ⟨told, content⟩ := pair
  obtain rfl : content = .text text := isText.eq_of_means meansValue
  cases told with
  | text other =>
      obtain rfl := Option.some.inj named
      exact found
  | _ => cases named

/-- In a rule whose kind is given as a text, the members are read like any others. -/
theorem ruleMember_eq_typedMember {member : Node × Node} (fit : IsRuleKey kind member.1)
    (tells : member.1.spelling? = some Rule.kindKey → ∃ text, member.2.IsText text) :
    ruleMember document depth member.1 member.2 = typedMember document depth member := by
  obtain ⟨key, value⟩ := member
  obtain ⟨written, spelled⟩ := fit.1
  cases key with
  | scalar tag style text =>
      rw [ruleMember, typedMember, typed_scalar]
      cases found : ScalarValue.ofScalar? tag style text with
      | none => rfl
      | some name =>
          have means : (Node.scalar tag style text).Means name := by
            rintro _ _ _ ⟨⟩
            exact found
          simp only [show (liftM (some name) : Reading Value) = pure name from rfl, pure_bind]
          split
          · rename_i told
            have named := (text?_eq_some_iff_of_means fit means List.mem_cons_self).1 told
            obtain ⟨content, _, _, rfl, read⟩ := tells named
            rw [spelling_scalar, typed_scalar, read]
            rfl
          · rfl
  | _ => cases spelled

theorem ruleValue_eq_typed {tag : Option Tag} {text : String} (shape : RuleMembers kind members)
    (given : Gives members Rule.kindKey text) :
    ruleValue document (depth + 1) (.mapping tag members) =
      typed document (depth + 1) (.mapping tag members) := by
  have same : ∀ member ∈ members,
      ruleMember document depth member.1 member.2 = typedMember document depth member := by
    intro member mem
    refine ruleMember_eq_typedMember (shape.keys member mem) ?_
    intro named
    obtain ⟨value, held, isText⟩ := given
    obtain rfl := held.unique (shape.once _ List.mem_cons_self) ⟨member.1, mem, named⟩
    exact ⟨text, isText⟩
  rw [typed_mapping, ← mapM_congr same]
  rfl

/-- The values of members that describe a rule describe it too. -/
theorem ofMembers?_of_means {texts : List String} {values : List (Value × Value)}
    (shape : RuleMembers kind members) (given : Gives members Rule.kindKey kind.name)
    (fields : List.Forall₂ (Gives members) kind.fields texts)
    (means : List.Forall₂ (fun member pair => member.1.Means pair.1 ∧ member.2.Means pair.2)
      members values) :
    Rule.ofMembers? values = kind.rule? texts := by
  have fits : List.Forall₂ (fun pair _ => Rule.IsKey kind pair.1 ∧ True) values members :=
    List.Forall₂.flip (((List.forall₂_and_left _ _).2 ⟨shape.keys, means⟩).imp
      fun _ _ here => ⟨here.1.2 _ here.2.1, trivial⟩)
  have told : List.Forall₂ (Rule.Tells values) kind.fields texts :=
    ((List.forall₂_and_left _ _).2 ⟨fun _ mem => mem, fields⟩).imp fun name _ here =>
      tells_of_gives shape means (List.mem_cons_of_mem _ here.1) here.2
  exact Rule.ofMembers?_of_tells ((List.forall₂_and_left _ _).1 fits).1
    (tells_of_gives shape means List.mem_cons_self given) told

/-- A rule that is described is read whenever its mapping can be read as a value of any type. -/
theorem run_rule (described : DescribesRule node rule) (count : Nat) :
    (Settings.rule document (depth + 1) node).run count =
      ((typed document (depth + 1) node).run count).map fun found => (rule, found.2) := by
  obtain ⟨kind, tag, members, texts, rfl, shape, given, fields, made⟩ := described.exists_fields
  rw [Settings.rule, ruleValue_eq_typed shape given, StateT.run_bind]
  cases read : (typed document (depth + 1) (.mapping tag members)).run count with
  | none => rfl
  | some found =>
      obtain ⟨value, after⟩ := found
      rw [typed_mapping] at read
      obtain ⟨_, _, _, rest⟩ := run_bind_eq_some_iff.1 read
      obtain ⟨values, _, ran, done⟩ := run_bind_eq_some_iff.1 rest
      obtain ⟨rfl, -⟩ := Prod.mk.inj (Option.some.inj done)
      have means := (forall₂_of_run_mapM ran).imp fun member pair ⟨_, _, readMember⟩ =>
        means_of_run_typedMember readMember
      have told : Rule.ofValue? (.mapping values) = some rule :=
        (ofMembers?_of_means shape given fields means).trans made
      simp only [Option.bind_eq_bind, Option.bind_some, Option.map_some, told, run_lift]

/-- A list of rules is read whenever its mappings can be read as values of any type. -/
theorem run_ruleList {tag : Option Tag} {nodes : List Node}
    (described : List.Forall₂ DescribesRule nodes rules) (count : Nat) :
    (ruleList document (depth + 2) (.sequence tag nodes)).run count =
      ((nodes.mapM (typed document (depth + 1))).run count).map fun found => (rules, found.2) := by
  have list : ruleList document (depth + 2) (.sequence tag nodes) =
      nodes.mapM (Settings.rule document (depth + 1)) := rfl
  rw [list]
  exact run_mapM_of_run (described.imp fun _ _ => run_rule) count

end Settings

end ChainLaunchers
