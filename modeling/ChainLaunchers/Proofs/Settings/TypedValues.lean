/-
Module: ChainLaunchers.Proofs.Settings.TypedValues
Purpose: Reading nodes as typed values: what a value that has been read tells of its node, and
  which nodes are read without following an alias.
Trusted boundary: none
Main exports:
  Settings.run_bind_eq_some_iff, Settings.means_of_run_typed, Settings.forall₂_of_run_mapM,
  Settings.run_mapM_of_run, Settings.IsLegible, Settings.exists_typed_eq_pure
-/
import ChainLaunchers.Settings.OfDocument
import ChainLaunchers.Proofs.Yaml.Members
import Mathlib.Data.List.Forall2

namespace ChainLaunchers

namespace Settings

open Yaml

/-! ### Steps of reading -/

section Steps

variable {α β γ : Type} {count after : Nat}

theorem run_bind_eq_some_iff {first : Reading α} {next : α → Reading β} {result : β} :
    (first >>= next).run count = some (result, after) ↔
      ∃ value between, first.run count = some (value, between) ∧
        (next value).run between = some (result, after) := by
  rw [StateT.run_bind, Option.bind_eq_bind, Option.bind_eq_some_iff]
  constructor
  · rintro ⟨⟨value, between⟩, read, rest⟩
    exact ⟨value, between, read, rest⟩
  · rintro ⟨value, between, read, rest⟩
    exact ⟨(value, between), read, rest⟩

theorem run_lift (found : Option α) :
    (liftM found : Reading α).run count = found.map fun value => (value, count) := by
  cases found with
  | none => rfl
  | some value => rfl

/-- What has been read of a list has been read of its members one after another. -/
theorem forall₂_of_run_mapM {read : α → Reading β} {sources : List α} {results : List β}
    (ran : (sources.mapM read).run count = some (results, after)) :
    List.Forall₂ (fun source result => ∃ before behind,
      (read source).run before = some (result, behind)) sources results := by
  induction sources generalizing results count after with
  | nil =>
      obtain ⟨rfl, -⟩ := Prod.mk.inj (Option.some.inj ran)
      exact .nil
  | cons source sources ih =>
      rw [List.mapM_cons] at ran
      obtain ⟨result, between, head, rest⟩ := run_bind_eq_some_iff.1 ran
      obtain ⟨others, behind, tail, done⟩ := run_bind_eq_some_iff.1 rest
      obtain ⟨rfl, -⟩ := Prod.mk.inj (Option.some.inj done)
      exact .cons ⟨count, between, head⟩ (ih tail)

/-- Two ways of reading that follow the same aliases, of which the first has known results. -/
theorem run_mapM_of_run {read : α → Reading β} {other : α → Reading γ} {sources : List α}
    {results : List β}
    (same : List.Forall₂ (fun source result => ∀ count,
      (read source).run count = ((other source).run count).map fun found => (result, found.2))
        sources results) (count : Nat) :
    (sources.mapM read).run count =
      ((sources.mapM other).run count).map fun found => (results, found.2) := by
  induction same generalizing count with
  | nil => rfl
  | @cons source result sources results head _ ih =>
      rw [List.mapM_cons, List.mapM_cons, StateT.run_bind, StateT.run_bind, head]
      cases (other source).run count with
      | none => rfl
      | some found =>
          simp only [Option.map_some, Option.bind_eq_bind, Option.bind_some, StateT.run_bind, ih]
          cases (sources.mapM other).run found.2 with
          | none => rfl
          | some rest => rfl

theorem mapM_congr {read other : α → Reading β} {sources : List α}
    (same : ∀ source ∈ sources, read source = other source) :
    sources.mapM read = sources.mapM other := by
  induction sources with
  | nil => rfl
  | cons source sources ih =>
      rw [List.mapM_cons, List.mapM_cons, same source List.mem_cons_self,
        ih fun rest mem => same rest (List.mem_cons_of_mem _ mem)]

theorem exists_mapM_eq_pure {read : α → Reading β} {sources : List α}
    (each : ∀ source ∈ sources, ∃ result, read source = pure result) :
    ∃ results, sources.mapM read = pure results := by
  induction sources with
  | nil => exact ⟨[], rfl⟩
  | cons source sources ih =>
      obtain ⟨result, head⟩ := each source List.mem_cons_self
      obtain ⟨results, tail⟩ := ih fun rest mem => each rest (List.mem_cons_of_mem _ mem)
      exact ⟨result :: results, by rw [List.mapM_cons, head, tail, pure_bind, pure_bind]⟩

end Steps

/-! ### Typed values -/

variable {document : Document} {depth count after : Nat}

theorem spelling_scalar (tag : Option Tag) (style : Style) (text : String) :
    spelling document (.scalar tag style text) = pure text := rfl

theorem spelling_eq_pure {node : Node} {text : String} (spelled : node.spelling? = some text) :
    spelling document node = pure text := by
  cases node with
  | scalar tag style written =>
      obtain rfl := Option.some.inj spelled
      exact spelling_scalar tag style written
  | _ => cases spelled

-- The depth is matched after the alias is followed, so that only the three kinds of nodes that
-- are no aliases have equations.
theorem typed_scalar (tag : Option Tag) (style : Style) (text : String) :
    typed document depth (.scalar tag style text) =
      liftM (ScalarValue.ofScalar? tag style text) := by
  cases depth with
  | zero => delta typed; rfl
  | succ depth => delta typed; rfl

theorem typed_sequence (tag : Option Tag) (members : List Node) :
    typed document (depth + 1) (.sequence tag members) = (do
      guard (!isUnknown tag)
      return .list (← members.mapM (typed document depth))) := by
  delta typed
  rfl

/-- The typed values of the key and of the value of a member. -/
def typedMember (document : Document) (depth : Nat) (member : Node × Node) :
    Reading (Value × Value) := do
  return (← typed document depth member.1, ← typed document depth member.2)

theorem typed_mapping (tag : Option Tag) (members : List (Node × Node)) :
    typed document (depth + 1) (.mapping tag members) = (do
      guard (!isUnknown tag)
      return .mapping (← members.mapM (typedMember document depth))) := by
  delta typed typedMember
  rfl

theorem means_of_run_typed {node : Node} {value : Value}
    (read : (typed document depth node).run count = some (value, after)) : node.Means value := by
  rintro tag style text rfl
  rw [typed_scalar, run_lift] at read
  obtain ⟨found, scalar, same⟩ := Option.map_eq_some_iff.1 read
  obtain ⟨rfl, -⟩ := Prod.mk.inj same
  exact scalar

theorem means_of_run_typedMember {member : Node × Node} {values : Value × Value}
    (read : (typedMember document depth member).run count = some (values, after)) :
    member.1.Means values.1 ∧ member.2.Means values.2 := by
  obtain ⟨key, between, readKey, rest⟩ := run_bind_eq_some_iff.1 read
  obtain ⟨value, behind, readValue, done⟩ := run_bind_eq_some_iff.1 rest
  obtain ⟨rfl, -⟩ := Prod.mk.inj (Option.some.inj done)
  exact ⟨means_of_run_typed readKey, means_of_run_typed readValue⟩

/-- A node in which nothing has to be followed and every scalar has a value. -/
inductive IsLegible : Nat → Node → Prop where
  | scalar {depth : Nat} {tag : Option Tag} {style : Style} {text : String} {value : Value}
      (read : ScalarValue.ofScalar? tag style text = some value) :
      IsLegible depth (.scalar tag style text)
  | sequence {depth : Nat} {tag : Option Tag} {members : List Node}
      (known : isUnknown tag = false) (each : ∀ member ∈ members, IsLegible depth member) :
      IsLegible (depth + 1) (.sequence tag members)
  | mapping {depth : Nat} {tag : Option Tag} {members : List (Node × Node)}
      (known : isUnknown tag = false) (keys : ∀ member ∈ members, IsLegible depth member.1)
      (values : ∀ member ∈ members, IsLegible depth member.2) :
      IsLegible (depth + 1) (.mapping tag members)

theorem exists_typed_eq_pure {node : Node} (legible : IsLegible depth node) :
    ∃ value, typed document depth node = pure value := by
  induction legible with
  | @scalar _ _ _ _ value read => exact ⟨value, by rw [typed_scalar, read]; rfl⟩
  | sequence known _ ih =>
      obtain ⟨values, read⟩ := exists_mapM_eq_pure ih
      exact ⟨.list values, by rw [typed_sequence, known, read]; rfl⟩
  | @mapping depth tag members known _ _ keys values =>
      have each : ∀ member ∈ members, ∃ pair, typedMember document depth member = pure pair := by
        intro member mem
        obtain ⟨key, readKey⟩ := keys member mem
        obtain ⟨value, readValue⟩ := values member mem
        exact ⟨(key, value), by rw [typedMember, readKey, readValue]; rfl⟩
      obtain ⟨pairs, read⟩ := exists_mapM_eq_pure each
      exact ⟨.mapping pairs, by rw [typed_mapping, known, read]; rfl⟩

end Settings

end ChainLaunchers
