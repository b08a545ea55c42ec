/-
Module: ChainLaunchers.Proofs.Rule.Members
Purpose: The rule that the members of a mapping describe, in whatever order they stand and
  whatever other members stand between them.
Trusted boundary: none
Main exports:
  Rule.Kind.name, Rule.IsKey, Rule.isNamed, Rule.Tells, Rule.ofMembers?_of_tells
-/
import ChainLaunchers.Rule.OfValue
import Mathlib.Data.List.Forall2
import Mathlib.Data.List.Nodup

namespace ChainLaunchers

namespace Rule

/-! ### Kinds -/

namespace Kind

/-- What the member that tells the kind says. -/
def name : Kind → String
  | .replace => "replace"
  | .remove => "remove"

theorem ofName?_name (kind : Kind) : ofName? kind.name = some kind := by
  cases kind with
  | replace => rfl
  | remove => rfl

theorem name_injective {kind other : Kind} (same : kind.name = other.name) : kind = other := by
  have found := congrArg ofName? same
  rw [ofName?_name, ofName?_name] at found
  exact Option.some.inj found

theorem nodup_fields (kind : Kind) : kind.fields.Nodup := by
  cases kind with
  | replace => decide
  | remove => decide

theorem kindKey_not_mem_fields (kind : Kind) : kindKey ∉ kind.fields := by
  cases kind with
  | replace => decide
  | remove => decide

theorem idxOf?_fields_eq_some_iff {kind : Kind} {name : String} {index : Nat} :
    kind.fields.idxOf? name = some index ↔ kind.fields[index]? = some name := by
  rw [List.idxOf?_eq_some_iff, List.getElem?_eq_some_iff]
  constructor
  · rintro ⟨within, found, -⟩
    exact ⟨within, found⟩
  · rintro ⟨within, found⟩
    refine ⟨within, found, ?_⟩
    intro earlier less same
    have equal := kind.nodup_fields.getElem_inj_iff.1 (same.trans found.symm)
    exact Nat.ne_of_lt less equal

end Kind

/-! ### Keys -/

/-- A key that a rule of the kind may have: a text, or a number that is no position of a field. -/
inductive IsKey (kind : Kind) : Value → Prop where
  | text (name : String) : IsKey kind (.text name)
  | number {position : Nat} (beyond : kind.fields.length ≤ position) :
      IsKey kind (.natural position)

variable {kind : Kind} {key : Value} {name : String}

theorem isSome_fieldOfKey? (fit : IsKey kind key) :
    (fieldOfKey? kind.fields key).isSome = true := by
  cases fit with
  | text name => rfl
  | number beyond =>
      rw [fieldOfKey?, if_neg (Nat.not_lt.2 beyond)]
      rfl

theorem fieldOfKey?_eq_some_iff {index : Nat} (fit : IsKey kind key)
    (field : kind.fields[index]? = some name) :
    fieldOfKey? kind.fields key = some (some index) ↔ key.text? = some name := by
  cases fit with
  | text other =>
      rw [fieldOfKey?, Option.some.injEq, Kind.idxOf?_fields_eq_some_iff, field, Value.text?]
      exact eq_comm
  | number beyond =>
      simp only [fieldOfKey?, if_neg (Nat.not_lt.2 beyond), Value.text?, Option.some.injEq,
        reduceCtorEq]

/-! ### Members -/

/-- Whether a member has the name. -/
def isNamed (name : String) (member : Value × Value) : Bool := member.1.text? = some name

/-- Exactly one of the members has the name, and its value is the text. -/
def Tells (members : List (Value × Value)) (name text : String) : Prop :=
  members.filter (isNamed name) = [(.text name, .text text)]

theorem tellsKind_eq_isNamed : tellsKind = isNamed kindKey := by
  funext member
  obtain ⟨key, value⟩ := member
  cases key <;> simp [tellsKind, isNamed, Value.text?]

theorem mapM_eq_some_of_forall₂ {α β : Type} {f : α → Option β} {sources : List α}
    {results : List β}
    (read : List.Forall₂ (fun source result => f source = some result) sources results) :
    sources.mapM f = some results := by
  induction read with
  | nil => rfl
  | cons head _ tail =>
      rw [List.mapM_cons, head, tail]
      rfl

variable {members : List (Value × Value)} {text : String} {texts : List String}

theorem fieldValue?_of_tells {index : Nat} (keys : ∀ member ∈ members, IsKey kind member.1)
    (field : kind.fields[index]? = some name) (told : Tells members name text) :
    fieldValue? kind.fields index (members.filter fun member => !tellsKind member) =
      some (.text text) := by
  have other : name ≠ kindKey := by
    rintro rfl
    exact kind.kindKey_not_mem_fields (List.mem_of_getElem? field)
  have filtered : (members.filter fun member => !tellsKind member).filter
      (fun member => fieldOfKey? kind.fields member.1 = some (some index)) =
        members.filter (isNamed name) := by
    rw [List.filter_filter, List.filter_congr]
    intro member mem
    rw [tellsKind_eq_isNamed, isNamed, isNamed, Bool.eq_iff_iff, Bool.and_eq_true,
      decide_eq_true_iff, decide_eq_true_iff, fieldOfKey?_eq_some_iff (keys member mem) field,
      Bool.not_eq_true', decide_eq_false_iff_not]
    constructor
    · exact And.left
    · intro same
      refine ⟨same, ?_⟩
      rw [same, Option.some.injEq]
      exact other
  rw [fieldValue?, filtered, told]

theorem mapM_fieldValue? (keys : ∀ member ∈ members, IsKey kind member.1)
    (fields : List.Forall₂ (Tells members) kind.fields texts) :
    ((List.range kind.fields.length).mapM fun index =>
      fieldValue? kind.fields index (members.filter fun member => !tellsKind member)) =
        some (texts.map Value.text) := by
  apply mapM_eq_some_of_forall₂
  obtain ⟨lengths, told⟩ := List.forall₂_iff_get.1 fields
  refine List.forall₂_iff_get.2 ⟨?_, ?_⟩
  · rw [List.length_range, List.length_map, lengths]
  · intro index within _
    rw [List.length_range] at within
    have field : kind.fields[index]? = some kind.fields[index] := List.getElem?_eq_getElem within
    simpa using fieldValue?_of_tells keys field (told index within (lengths ▸ within))

/-- Members that tell the kind and each of its fields once describe a rule, and neither their
order nor what else they tell counts. -/
theorem ofMembers?_of_tells (keys : ∀ member ∈ members, IsKey kind member.1)
    (told : Tells members kindKey kind.name)
    (fields : List.Forall₂ (Tells members) kind.fields texts) :
    ofMembers? members = kind.rule? texts := by
  have named : members.filter tellsKind = [(.text kindKey, .text kind.name)] := by
    rw [tellsKind_eq_isNamed, told]
  have fit : ((members.filter fun member => !tellsKind member).all fun member =>
      (fieldOfKey? kind.fields member.1).isSome) = true := by
    rw [List.all_eq_true]
    intro member mem
    exact isSome_fieldOfKey? (keys member (List.mem_of_mem_filter mem))
  have read : (texts.map Value.text).mapM Value.text? = some texts := by
    apply mapM_eq_some_of_forall₂
    rw [List.forall₂_map_left_iff]
    exact List.forall₂_same.2 fun _ _ => rfl
  rw [ofMembers?, named]
  show (Kind.ofName? kind.name).bind _ = _
  rw [Kind.ofName?_name, Option.bind_some]
  dsimp only
  rw [fit, mapM_fieldValue? keys fields]
  show ((texts.map Value.text).mapM Value.text?).bind kind.rule? = _
  rw [read, Option.bind_some]

end Rule

end ChainLaunchers
