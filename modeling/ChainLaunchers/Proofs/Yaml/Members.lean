/-
Module: ChainLaunchers.Proofs.Yaml.Members
Purpose: What the members of a mapping say under a name, and how the text of a scalar and its
  typed value are related.
Trusted boundary: none
Main exports:
  Yaml.ScalarValue.Spells, Yaml.ScalarValue.spells_ofScalar?, Yaml.Node.spelling?,
  Yaml.Node.IsText, Yaml.Node.Means, Yaml.Holds, Yaml.Gives, Yaml.isNamed, Yaml.IsOnce,
  Yaml.isNamedIn, Yaml.holds_iff_of_perm
-/
import ChainLaunchers.Yaml.ScalarValue

namespace ChainLaunchers.Yaml

/-! ### Values of scalars -/

namespace ScalarValue

/-- What the value of a scalar has to do with its text: a text is that text, and a number is
spelled by it. -/
def Spells (text : String) : Value → Prop
  | .text content => content = text
  | .natural _ => (integer? text).isSome = true
  | _ => True

variable {text : String} {value : Value}

theorem spells_ofInteger? (read : (integer? text).bind ofInteger? = some value) :
    Spells text value := by
  obtain ⟨number, spelled, fits⟩ := Option.bind_eq_some_iff.1 read
  unfold ofInteger? at fits
  split at fits
  · cases fits
  · split at fits
    · obtain rfl := Option.some.inj fits
      trivial
    · obtain rfl := Option.some.inj fits
      rw [Spells, spelled]
      rfl

theorem spells_ofPlain? (read : ofPlain? text = some value) : Spells text value := by
  unfold ofPlain? at read
  split at read
  · obtain rfl := Option.some.inj read
    trivial
  · split at read
    · obtain rfl := Option.some.inj read
      trivial
    · split at read
      · rename_i spelled
        apply spells_ofInteger?
        rw [spelled]
        exact read
      · split at read
        · obtain rfl := Option.some.inj read
          trivial
        · obtain rfl := Option.some.inj read
          rfl

theorem spells_ofScalar? {tag : Option Tag} {style : Style}
    (read : ofScalar? tag style text = some value) : Spells text value := by
  unfold ofScalar? at read
  split at read
  case h_1 =>
    obtain ⟨_, -, rfl⟩ := Option.map_eq_some_iff.1 read
    trivial
  case h_2 => exact spells_ofInteger? read
  case h_3 =>
    split at read
    · obtain rfl := Option.some.inj read
      trivial
    · cases read
  case h_4 =>
    split at read
    · obtain rfl := Option.some.inj read
      trivial
    · cases read
  case h_5 =>
    obtain rfl := Option.some.inj read
    rfl
  case h_6 => cases read
  case h_7 =>
    split at read
    · exact spells_ofPlain? read
    · obtain rfl := Option.some.inj read
      rfl

end ScalarValue

/-! ### Nodes -/

namespace Node

/-- The text that a scalar is written with; other nodes have none. -/
def spelling? : Node → Option String
  | .scalar _ _ text => some text
  | _ => none

/-- A scalar whose value is its text, and not a number or a truth value that it spells. -/
def IsText (node : Node) (text : String) : Prop :=
  ∃ tag style, node = .scalar tag style text ∧
    ScalarValue.ofScalar? tag style text = some (.text text)

/-- Quoted scalars are texts whatever they spell. -/
theorem isText_quoted (text : String) : (scalar none .marked text).IsText text :=
  ⟨none, .marked, rfl, rfl⟩

/-- Plain scalars are texts if they spell nothing else. -/
theorem isText_plain {text : String}
    (read : (ScalarValue.ofPlain? text).bind Value.text? = some text) :
    (scalar none .plain text).IsText text := by
  obtain ⟨value, found, isText⟩ := Option.bind_eq_some_iff.1 read
  refine ⟨none, .plain, rfl, found.trans ?_⟩
  cases value with
  | text content =>
      obtain rfl := Option.some.inj isText
      rfl
  | _ => cases isText

/-- The value of a node, as far as the node itself tells it. -/
def Means (node : Node) (value : Value) : Prop :=
  ∀ tag style text, node = .scalar tag style text →
    ScalarValue.ofScalar? tag style text = some value

variable {node : Node} {text : String} {value : Value}

theorem spelling?_ne {other : String} (spelled : node.spelling? = some text) (ne : text ≠ other) :
    node.spelling? ≠ some other := by
  rw [spelled]
  intro same
  exact ne (Option.some.inj same)

theorem IsText.spelling? (isText : node.IsText text) : node.spelling? = some text := by
  obtain ⟨tag, style, rfl, -⟩ := isText
  rfl

theorem IsText.unique {other : String} (first : node.IsText text) (second : node.IsText other) :
    text = other :=
  Option.some.inj (first.spelling?.symm.trans second.spelling?)

theorem IsText.eq_of_means (isText : node.IsText text) (means : node.Means value) :
    value = .text text := by
  obtain ⟨tag, style, rfl, read⟩ := isText
  exact Option.some.inj ((means tag style text rfl).symm.trans read)

theorem spells_of_means (spelled : node.spelling? = some text) (means : node.Means value) :
    ScalarValue.Spells text value := by
  cases node with
  | scalar tag style written =>
      obtain rfl := Option.some.inj spelled
      exact ScalarValue.spells_ofScalar? (means tag style written rfl)
  | sequence _ _ => cases spelled
  | mapping _ _ => cases spelled
  | «alias» _ => cases spelled

end Node

/-! ### Members -/

/-- Whether a member has the name. -/
def isNamed (name : String) (member : Node × Node) : Bool := member.1.spelling? = some name

/-- A member has the name and the value. -/
def Holds (members : List (Node × Node)) (name : String) (value : Node) : Prop :=
  ∃ key, (key, value) ∈ members ∧ key.spelling? = some name

/-- A member has the name, and its value is the text. -/
def Gives (members : List (Node × Node)) (name text : String) : Prop :=
  ∃ value, Holds members name value ∧ value.IsText text

/-- At most one member has the name. -/
def IsOnce (members : List (Node × Node)) (name : String) : Prop :=
  members.countP (isNamed name) ≤ 1

instance (members : List (Node × Node)) (name : String) : Decidable (IsOnce members name) :=
  inferInstanceAs (Decidable (_ ≤ _))

variable {members : List (Node × Node)} {name text other : String} {value : Node}

theorem Holds.exists_filter_eq (held : Holds members name value) (once : IsOnce members name) :
    ∃ key, key.spelling? = some name ∧ members.filter (isNamed name) = [(key, value)] := by
  obtain ⟨key, mem, named⟩ := held
  have found : (key, value) ∈ members.filter (isNamed name) :=
    List.mem_filter.2 ⟨mem, decide_eq_true named⟩
  rw [IsOnce, List.countP_eq_length_filter] at once
  have single := Nat.le_antisymm once (List.length_pos_of_mem found)
  obtain ⟨member, only⟩ := List.length_eq_one_iff.1 single
  rw [only, List.mem_singleton] at found
  subst found
  exact ⟨key, named, only⟩

theorem Holds.unique {second : Node} (once : IsOnce members name)
    (held : Holds members name value) (again : Holds members name second) : value = second := by
  obtain ⟨key, _, only⟩ := held.exists_filter_eq once
  obtain ⟨key', _, only'⟩ := again.exists_filter_eq once
  exact congrArg Prod.snd (List.singleton_inj.1 (only.symm.trans only'))

theorem Gives.unique (once : IsOnce members name) (given : Gives members name text)
    (again : Gives members name other) : text = other := by
  obtain ⟨value, held, isText⟩ := given
  obtain ⟨second, heldToo, isTextToo⟩ := again
  obtain rfl := held.unique once heldToo
  exact isText.unique isTextToo

theorem Gives.of_same {others : List (Node × Node)}
    (same : ∀ value, Holds members name value ↔ Holds others name value)
    (given : Gives members name text) : Gives others name text := by
  obtain ⟨value, held, isText⟩ := given
  exact ⟨value, (same value).1 held, isText⟩

/-! ### Order -/

/-- Whether a member has one of the names. -/
def isNamedIn (names : List String) (member : Node × Node) : Bool :=
  names.any fun name => isNamed name member

variable {others : List (Node × Node)} {names : List String}

theorem holds_filter_iff (known : name ∈ names) :
    Holds (members.filter (isNamedIn names)) name value ↔ Holds members name value := by
  constructor
  · rintro ⟨key, mem, named⟩
    exact ⟨key, (List.mem_filter.1 mem).1, named⟩
  · rintro ⟨key, mem, named⟩
    refine ⟨key, List.mem_filter.2 ⟨mem, ?_⟩, named⟩
    exact List.any_eq_true.2 ⟨name, known, decide_eq_true named⟩

/-- What stands under the names does not depend on the order of the members, nor on members of
other names. -/
theorem holds_iff_of_perm
    (perm : (members.filter (isNamedIn names)).Perm (others.filter (isNamedIn names)))
    (known : name ∈ names) : Holds members name value ↔ Holds others name value := by
  calc
    Holds members name value ↔ Holds (members.filter (isNamedIn names)) name value :=
      (holds_filter_iff known).symm
    _ ↔ Holds (others.filter (isNamedIn names)) name value := by
      simp only [Holds, perm.mem_iff]
    _ ↔ Holds others name value := holds_filter_iff known

/-! ### One more member -/

theorem Holds.concat {member : Node × Node} (held : Holds members name value) :
    Holds (members ++ [member]) name value := by
  obtain ⟨key, mem, named⟩ := held
  exact ⟨key, List.mem_append_left _ mem, named⟩

theorem holds_concat_iff {member : Node × Node} (other : member.1.spelling? ≠ some name) :
    Holds (members ++ [member]) name value ↔ Holds members name value := by
  refine ⟨?_, Holds.concat⟩
  rintro ⟨key, mem, named⟩
  rcases List.mem_append.1 mem with earlier | last
  · exact ⟨key, earlier, named⟩
  · obtain rfl := List.mem_singleton.1 last
    exact absurd named other

theorem holds_concat_self {key : Node} (named : key.spelling? = some name) :
    Holds (members ++ [(key, value)]) name value :=
  ⟨key, List.mem_append_right _ List.mem_cons_self, named⟩

theorem IsOnce.init {member : Node × Node} (once : IsOnce (members ++ [member]) name) :
    IsOnce members name := by
  rw [IsOnce, List.countP_append] at once
  exact Nat.le_trans (Nat.le_add_right _ _) once

/-- A name that the last member has is new. -/
theorem IsOnce.not_holds {member : Node × Node} (once : IsOnce (members ++ [member]) name)
    (named : member.1.spelling? = some name) : ∀ value, ¬Holds members name value := by
  rintro value ⟨key, mem, spelled⟩
  have counted : 0 < members.countP (isNamed name) :=
    List.countP_pos_iff.2 ⟨_, mem, decide_eq_true spelled⟩
  rw [IsOnce, List.countP_append, List.countP_singleton, isNamed, decide_eq_true named,
    if_pos rfl] at once
  exact absurd once (Nat.not_le.2 (Nat.lt_add_of_pos_left counted))

end ChainLaunchers.Yaml
