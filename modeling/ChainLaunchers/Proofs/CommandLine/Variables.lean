/-
Module: ChainLaunchers.Proofs.CommandLine.Variables
Purpose: Variables of an environment, and what an environment file adds to them: a variable that has
  a text keeps it, and one without a value gets the first one that the file gives it.
Trusted boundary: none
Main exports:
  Environment.value?_assign_self, Environment.value?_assign_of_ne, EnvironmentFile.IsVariable,
  EnvironmentFile.isVariable_of_entry?, Environment.assigned?, Environment.CompletedBy,
  Environment.fileValue?, Environment.IsReadable, Environment.completedBy_extended
-/
import ChainLaunchers.CommandLine.Environment
import ChainLaunchers.Proofs.Text.Ascii
import ChainLaunchers.Proofs.Text.Encoding
import ChainLaunchers.Proofs.Line.Characters

namespace ChainLaunchers

namespace Environment

/-! ### Looking up and assigning -/

variable {name other value : Bytes} {known : Bytes × Bytes}

theorem valueIn?_eq_some_iff :
    valueIn? name known = some value ↔ entry known.1 known.2 = entry name value := by
  unfold valueIn?
  have begins : entry name value = (name ++ [61]) ++ value := by simp [entry]
  rw [begins]
  by_cases own : name ++ [61] <+: entry known.1 known.2
  · rw [if_pos (List.isPrefixOf_iff_prefix.2 own)]
    obtain ⟨rest, whole⟩ := own
    rw [← whole, Option.some.injEq, List.append_cancel_left_eq]
    have drop : ((name ++ [61]) ++ rest).drop (name.length + 1) = rest := by
      rw [← List.length_singleton (a := (61 : UInt8)), ← List.length_append, List.drop_left]
    rw [drop]
  · rw [if_neg (mt List.isPrefixOf_iff_prefix.1 own)]
    exact iff_of_false nofun fun whole => own ⟨value, whole.symm⟩

theorem valueIn?_self (name value : Bytes) : valueIn? name (name, value) = some value :=
  valueIn?_eq_some_iff.2 rfl

/-- An entry tells its name, if no equals sign is in it. -/
theorem name_of_entry (plain : 61 ∉ name) (value : Bytes) :
    (entry name value).takeWhile (· ≠ 61) = name := by
  rw [entry, List.takeWhile_append_of_pos]
  · simp
  · intro byte mem
    exact decide_eq_true fun same => plain (same ▸ mem)

/-- An entry holds the value of one name only. -/
theorem valueIn?_eq_none_of_ne (plain : 61 ∉ name) (plain' : 61 ∉ other) (different : other ≠ name)
    (found : (valueIn? name known).isSome = true) : valueIn? other known = none := by
  obtain ⟨value, own⟩ := Option.isSome_iff_exists.1 found
  rw [Option.eq_none_iff_forall_ne_some]
  intro value' foreign
  apply different
  rw [← name_of_entry plain value, ← name_of_entry plain' value', ← valueIn?_eq_some_iff.1 own,
    ← valueIn?_eq_some_iff.1 foreign]

theorem value?_assign_self (nonempty : name ≠ []) (value : Bytes) (environment : Environment) :
    (environment.assign name value).value? name = some value := by
  rw [value?, if_neg nonempty]
  induction environment with
  | nil => rw [assign, List.findSome?_cons, valueIn?_self]
  | cons known rest ih =>
      rw [assign]
      cases found : valueIn? name known with
      | some before => rw [Option.isSome_some, if_pos rfl, List.findSome?_cons, valueIn?_self]
      | none =>
          rw [Option.isSome_none, if_neg Bool.false_ne_true, List.findSome?_cons, found]
          exact ih

theorem value?_assign_of_ne (plain : 61 ∉ name) (plain' : 61 ∉ other) (different : other ≠ name)
    (value : Bytes) (environment : Environment) :
    (environment.assign name value).value? other = environment.value? other := by
  have foreign : valueIn? other (name, value) = none :=
    valueIn?_eq_none_of_ne plain plain' different (by rw [valueIn?_self]; rfl)
  unfold value?
  split
  · rfl
  · induction environment with
    | nil => rw [assign, List.findSome?_cons, foreign]
    | cons known rest ih =>
        rw [assign]
        split
        · rename_i found
          rw [List.findSome?_cons, List.findSome?_cons, foreign,
            valueIn?_eq_none_of_ne plain plain' different found]
        · rw [List.findSome?_cons, List.findSome?_cons, ih]

end Environment

namespace EnvironmentFile

/-! ### Names in environment files -/

/-- A name that a variable of an environment file can have. -/
structure IsVariable (name : List Char) : Prop where
  nonempty : name ≠ []
  plain : '=' ∉ name

theorem IsVariable.encode_ne_nil {name : List Char} (named : IsVariable name) :
    Utf8.encode name ≠ [] := mt (Utf8.encode_eq_nil_iff name).1 named.nonempty

theorem IsVariable.not_mem_encode {name : List Char} (named : IsVariable name) :
    61 ∉ Utf8.encode name := by
  intro mem
  obtain ⟨character, present, inside⟩ := List.mem_flatMap.1 mem
  have same := Utf8.toNat_eq_of_mem_encodeChar inside (by decide)
  obtain rfl : character = '=' := Char.toNat_inj.1 same
  exact named.plain present

theorem isVariable_of_name? {text name rest : List Char} (found : name? text = some (name, rest)) :
    IsVariable name := by
  unfold name? at found
  split at found
  · rename_i first others
    split at found
    · rename_i begins
      obtain ⟨rfl, -⟩ := Prod.mk.inj (Option.some.inj found)
      have member : (first.isAlphanum || first = '_' || first = '.') = true := by
        rcases Bool.or_eq_true_iff.1 begins with letter | line
        · simp [Char.isAlphanum, letter]
        · simp [line]
      constructor
      · rw [List.takeWhile_cons, if_pos member]
        exact List.cons_ne_nil _ _
      · intro mem
        have equals := List.mem_takeWhile_imp mem
        revert equals
        decide
    · cases found
  · cases found

theorem isVariable_of_target? {text name rest : List Char}
    (found : target? text = some (name, rest)) : IsVariable name := by
  unfold target? at found
  split at found
  · cases found
  · rename_i first others named
    split at found
    · obtain ⟨rfl, -⟩ := Prod.mk.inj (Option.some.inj found)
      exact isVariable_of_name? named
    · split at found
      · simp only [assigned?, Option.bind_eq_bind, Option.bind_eq_some_iff, Option.pure_def,
          Option.some.injEq, Prod.mk.injEq, Prod.exists] at found
        obtain ⟨_, _, named, _, -, rfl, -⟩ := found
        exact isVariable_of_name? named
      · cases found

/-- The lines of an environment file assign to variables only. -/
theorem isVariable_of_entry? {known : List Char → List Char} {line name value : List Char}
    (found : entry? known line = some (some (name, value))) : IsVariable name := by
  unfold entry? at found
  split at found
  · cases found
  · cases found
  · split at found
    · cases found
    · rename_i target
      suffices named : _ = name from named ▸ isVariable_of_target? target
      split at found
      · exact (Prod.mk.inj (Option.some.inj (Option.some.inj found))).1
      · exact (Prod.mk.inj (Option.some.inj (Option.some.inj found))).1
      · obtain ⟨_, -, same⟩ := Option.map_eq_some_iff.1 found
        exact (Prod.mk.inj (Option.some.inj same)).1

end EnvironmentFile

namespace Environment

/-! ### Environment files -/

/-- What an environment file gives to a variable: the value of the first of its lines that assigns
to it.  A malformed line ends the file. -/
def assigned? (environment : Environment) (given : List (List Char × List Char))
    (name : List Char) : List Bytes → Option (List Char)
  | [] => none
  | line :: rest =>
    match Utf8.decode? (EnvironmentFile.dropBreak line) with
    | none => none
    | some text =>
      match EnvironmentFile.entry? (environment.substitute given) text with
      | none => none
      | some none => assigned? environment given name rest
      | some (some (other, value)) =>
        if other = name then some value
        else
          match environment.define? other value with
          | none => none
          | some defined => assigned? defined ((other, value) :: given) name rest

/-- The bytes that the nearest environment file gives to a variable. -/
def fileValue? (environment : Environment) (tree : Tree) (name : List Char) : Option Bytes :=
  match tree.environmentFile? tree.workingPlace.length tree.workingPlace with
  | some content => (environment.assigned? [] name (Line.ofData content)).map Utf8.encode
  | none => none

/-- What completing an environment is to do for a variable: one that has a value keeps it, and one
that has none gets the value that is given, if there is one. -/
def CompletedBy (environment : Environment) (name : Bytes) (given : Option Bytes)
    (completed : Environment) : Prop :=
  completed.value? name = (environment.value? name).or given

/-- Whether a variable has a text, or no value at all. -/
def IsReadable (environment : Environment) (name : Bytes) : Prop :=
  ∀ bytes, environment.value? name = some bytes → Utf8.isValid bytes = true

section

open EnvironmentFile

variable {environment defined completed : Environment} {name other value : List Char}

/-- Taking a line for another variable leaves the variable alone. -/
theorem value?_define?_of_ne (named : IsVariable name) (named' : IsVariable other)
    (different : other ≠ name) (taken : environment.define? name value = some defined) :
    defined.value? (Utf8.encode other) = environment.value? (Utf8.encode other) := by
  unfold define? at taken
  split at taken
  · rw [← Option.some.inj taken]
  · split at taken
    · cases taken
    · rw [← Option.some.inj taken]
      exact value?_assign_of_ne named.not_mem_encode named'.not_mem_encode
        (fun same => different (Utf8.encode_injective same)) _ environment

theorem text?_ofList (environment : Environment) (name : List Char) :
    environment.text? (String.ofList name) =
      (environment.value? (Utf8.encode name)).bind Utf8.toString? := by
  rw [text?, Utf8.ofString, String.toList_ofList]

/-- A variable that has a text is not assigned to. -/
theorem define?_of_text {bytes : Bytes} (found : environment.value? (Utf8.encode name) = some bytes)
    (text : Utf8.isValid bytes = true) (value : List Char) :
    environment.define? name value = some environment := by
  rw [define?, text?_ofList, found, Option.bind_some, Utf8.isSome_toString?, if_pos text]

theorem value?_define?_of_none (named : IsVariable name)
    (missing : environment.value? (Utf8.encode name) = none)
    (taken : environment.define? name value = some defined) :
    defined.value? (Utf8.encode name) = some (Utf8.encode value) := by
  rw [define?, text?_ofList, missing, Option.bind_none, Option.isSome_none,
    if_neg Bool.false_ne_true] at taken
  split at taken
  · cases taken
  · rw [← Option.some.inj taken]
    exact value?_assign_self named.encode_ne_nil _ environment

/-- Once a line has assigned to a variable, nothing that comes later changes it. -/
theorem completed_of_assignment (named : IsVariable name) {later : Option Bytes}
    (readable : environment.IsReadable (Utf8.encode name))
    (defines : environment.define? name value = some defined)
    (completes : defined.IsReadable (Utf8.encode name) →
      completed.value? (Utf8.encode name) = (defined.value? (Utf8.encode name)).or later) :
    completed.value? (Utf8.encode name) =
      (environment.value? (Utf8.encode name)).or (some (Utf8.encode value)) := by
  cases found : environment.value? (Utf8.encode name) with
  | some bytes =>
      rw [define?_of_text found (readable bytes found)] at defines
      obtain rfl := Option.some.inj defines
      rw [completes readable, found, Option.some_or, Option.some_or]
  | none =>
      have now := value?_define?_of_none named found defines
      have text : defined.IsReadable (Utf8.encode name) := by
        intro bytes held
        rw [now] at held
        exact (Utf8.isValid_iff bytes).2 ⟨value, Option.some.inj held⟩
      rw [completes text, now, Option.some_or, Option.none_or]

/-- The lines of an environment file complete an environment in which the variable is readable. -/
theorem completedBy_takeLines (named : IsVariable name) {given : List (List Char × List Char)}
    {lines : List Bytes}
    (readable : environment.IsReadable (Utf8.encode name))
    (taken : environment.takeLines? given lines = some completed) :
    environment.CompletedBy (Utf8.encode name)
      ((environment.assigned? given name lines).map Utf8.encode) completed := by
  induction lines generalizing environment given with
  | nil =>
      obtain rfl := Option.some.inj taken
      exact (Option.or_none).symm
  | cons line rest ih =>
      unfold CompletedBy at ih ⊢
      rw [takeLines?] at taken
      rw [assigned?]
      cases read : Utf8.decode? (dropBreak line) with
      | none =>
          simp only [read] at taken ⊢
          obtain rfl := Option.some.inj taken
          exact Option.or_none.symm
      | some text =>
          simp only [read] at taken ⊢
          cases holds : entry? (environment.substitute given) text with
          | none =>
              simp only [holds] at taken ⊢
              obtain rfl := Option.some.inj taken
              exact Option.or_none.symm
          | some assignment =>
              cases assignment with
              | none =>
                  simp only [holds] at taken ⊢
                  exact ih readable taken
              | some pair =>
                  obtain ⟨other, value⟩ := pair
                  have named' := isVariable_of_entry? holds
                  simp only [holds] at taken ⊢
                  cases defines : environment.define? other value with
                  | none =>
                      rw [defines] at taken
                      cases taken
                  | some next =>
                      rw [defines] at taken
                      by_cases own : other = name
                      · subst own
                        rw [if_pos rfl, Option.map_some]
                        exact completed_of_assignment named readable defines
                          fun text => ih text taken
                      · have same := value?_define?_of_ne named' named (Ne.symm own) defines
                        rw [if_neg own]
                        rw [IsReadable, ← same] at readable
                        rw [← same]
                        exact ih readable taken

/-- The nearest environment file completes an environment in which the variable is readable. -/
theorem completedBy_extended (named : IsVariable name) {tree : Tree}
    (readable : environment.IsReadable (Utf8.encode name))
    (taken : environment.extended? tree = some completed) :
    environment.CompletedBy (Utf8.encode name) (environment.fileValue? tree name) completed := by
  unfold extended? at taken
  unfold fileValue?
  cases found : tree.environmentFile? tree.workingPlace.length tree.workingPlace with
  | some content =>
      simp only [found] at taken ⊢
      exact completedBy_takeLines named readable taken
  | none =>
      simp only [found] at taken ⊢
      obtain rfl := Option.some.inj taken
      exact Option.or_none.symm

end

end Environment

end ChainLaunchers
