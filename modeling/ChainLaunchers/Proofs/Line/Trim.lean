/-
Module: ChainLaunchers.Proofs.Line.Trim
Purpose: What it means to take away the blanks at the two ends of a sequence, and that the two
  indices of a line do so.
Trusted boundary: none
Main exports:
  Line.Trims, Line.exists_trims, Line.Trims.exists_indices, Line.trim_eq_of_trims,
  Line.TrimsBothEnds, Line.trims_both_ends
-/
import ChainLaunchers.Line
import Mathlib.Data.List.Basic
import Mathlib.Data.List.TakeWhile

namespace ChainLaunchers

namespace Line

section

variable {α : Type}

/-- `kept` is what remains of `text` when the blank members at its two ends are taken away. -/
structure Trims (blank : α → Bool) (text kept : List α) : Prop where
  around : ∃ front back, text = front ++ kept ++ back ∧
    (∀ member ∈ front, blank member = true) ∧ ∀ member ∈ back, blank member = true
  begins : ∀ member ∈ kept.head?, blank member = false
  ends : ∀ member ∈ kept.getLast?, blank member = false

/-- Where dropping blanks stops, there is none. -/
theorem stops_dropWhile (blank : α → Bool) (text : List α) :
    ∀ member ∈ (text.dropWhile blank).head?, blank member = false := by
  intro member first
  have stops := List.head?_dropWhile_not blank text
  rw [Option.mem_def.1 first] at stops
  exact stops

/-- The blanks in front of a sequence can be taken away. -/
theorem exists_without_front (blank : α → Bool) (text : List α) :
    ∃ front rest, text = front ++ rest ∧ (∀ member ∈ front, blank member = true) ∧
      ∀ member ∈ rest.head?, blank member = false :=
  ⟨text.takeWhile blank, text.dropWhile blank, List.takeWhile_append_dropWhile.symm,
    fun _ => List.mem_takeWhile_imp, stops_dropWhile blank text⟩

/-- Something always remains, though it may be nothing but the empty sequence. -/
theorem exists_trims (blank : α → Bool) (text : List α) : ∃ kept, Trims blank text kept := by
  obtain ⟨front, rest, rfl, frontBlank, begins⟩ := exists_without_front blank text
  -- The same from the other end, on what remains.
  obtain ⟨back, kept, turned, backBlank, ends⟩ := exists_without_front blank rest.reverse
  have whole : rest = kept.reverse ++ back.reverse := by
    rw [← List.reverse_append, ← turned, List.reverse_reverse]
  refine ⟨kept.reverse, ⟨front, back.reverse, ?_, frontBlank, ?_⟩, ?_, ?_⟩
  · rw [whole, List.append_assoc]
  · intro member mem
    exact backBlank member (List.mem_reverse.1 mem)
  · intro member first
    apply begins member
    rw [whole, List.head?_append, Option.mem_def.1 first]
    rfl
  · intro member last
    rw [List.getLast?_reverse] at last
    exact ends member last

variable {blank : α → Bool} {text kept front back : List α}

/-- What remains has no blank ends itself. -/
theorem Trims.refl (trims : Trims blank text kept) : Trims blank kept kept where
  around := ⟨[], [], by simp, List.forall_mem_nil _, List.forall_mem_nil _⟩
  begins := trims.begins
  ends := trims.ends

/-- The same remains when there are more blanks at the ends. -/
theorem Trims.extend (trims : Trims blank text kept) (frontBlank : ∀ member ∈ front, blank member)
    (backBlank : ∀ member ∈ back, blank member) : Trims blank (front ++ text ++ back) kept := by
  obtain ⟨inner, inner', rfl, innerBlank, innerBlank'⟩ := trims.around
  refine ⟨⟨front ++ inner, inner' ++ back, by simp, ?_, ?_⟩, trims.begins, trims.ends⟩
  · exact List.forall_mem_append.2 ⟨frontBlank, innerBlank⟩
  · exact List.forall_mem_append.2 ⟨innerBlank', backBlank⟩

end

/-! ### The two indices -/

theorem contentStart_append {front rest : Bytes}
    (blank : ∀ byte ∈ front, Bytes.isBlank byte = true)
    (begins : ∀ byte ∈ rest.head?, Bytes.isBlank byte = false) :
    contentStart (front ++ rest) = front.length := by
  have passed : front.findIdx (fun byte => !Bytes.isBlank byte) = front.length :=
    List.findIdx_eq_length_of_false fun byte mem => by rw [blank byte mem]; rfl
  rw [contentStart, List.findIdx_append, passed, if_neg (Nat.lt_irrefl _)]
  cases rest with
  | nil => simp
  | cons first rest => simp [List.findIdx_cons, begins first rfl]

theorem contentEnd_append {front back : Bytes}
    (blank : ∀ byte ∈ back, Bytes.isBlank byte = true) {last : UInt8}
    (ends : front.getLast? = some last) (visible : Bytes.isBlank last = false) :
    contentEnd (front ++ back) = front.length := by
  have passed : back.reverse.findIdx? (fun byte => !Bytes.isBlank byte) = none :=
    List.findIdx?_eq_none_iff.2 fun byte mem => by rw [blank byte (List.mem_reverse.1 mem)]; rfl
  obtain ⟨before, rfl⟩ := List.getLast?_eq_some_iff.1 ends
  rw [contentEnd, List.reverse_append, List.findIdx?_append, passed, List.reverse_append]
  simp only [List.reverse_singleton, List.singleton_append, List.findIdx?_cons, visible,
    Bool.not_false, if_true, Option.map_some, Option.none_or, List.length_append,
    List.length_reverse]
  omega

theorem contentStart_of_blank {line : Bytes} (blank : ∀ byte ∈ line, Bytes.isBlank byte = true) :
    contentStart line = line.length := by
  simpa using contentStart_append blank (by simp : ∀ byte ∈ ([] : Bytes).head?, _)

/-- In a line without visible bytes the backward search finds nothing, and both indices are the
end of the line. -/
theorem contentEnd_of_blank {line : Bytes} (blank : ∀ byte ∈ line, Bytes.isBlank byte = true) :
    contentEnd line = line.length := by
  have missed : line.reverse.findIdx? (fun byte => !Bytes.isBlank byte) = none :=
    List.findIdx?_eq_none_iff.2 fun byte mem => by rw [blank byte (List.mem_reverse.1 mem)]; rfl
  rw [contentEnd, missed]
  exact contentStart_of_blank blank

/-- The two indices of a line enclose what remains without its blank ends. -/
theorem Trims.exists_indices {line kept : Bytes} (trims : Trims Bytes.isBlank line kept) :
    ∃ front back, line = front ++ kept ++ back ∧
      (∀ byte ∈ front, Bytes.isBlank byte = true) ∧ (∀ byte ∈ back, Bytes.isBlank byte = true) ∧
      contentStart line = front.length ∧ contentEnd line = (front ++ kept).length := by
  obtain ⟨⟨front, back, rfl, frontBlank, backBlank⟩, begins, ends⟩ := trims
  cases last : kept.getLast? with
  | none =>
      -- Nothing remains, so the forward search passes over the whole line.
      obtain rfl := List.getLast?_eq_none_iff.1 last
      have blank : ∀ byte ∈ front ++ [] ++ back, Bytes.isBlank byte = true := by
        intro byte mem
        simp only [List.append_nil, List.mem_append] at mem
        exact mem.elim (frontBlank byte) (backBlank byte)
      refine ⟨front ++ [] ++ back, [], by simp, blank, List.forall_mem_nil _, ?_, ?_⟩
      · exact contentStart_of_blank blank
      · rw [contentEnd_of_blank blank, List.append_nil (front ++ [] ++ back)]
  | some byte =>
      refine ⟨front, back, rfl, frontBlank, backBlank, ?_, ?_⟩
      · rw [List.append_assoc]
        apply contentStart_append frontBlank
        cases kept with
        | nil => cases last
        | cons first more => exact begins
      · apply contentEnd_append backBlank _ (ends byte last)
        rw [List.getLast?_append, last]
        rfl

theorem trim_eq_of_trims {line kept : Bytes} (trims : Trims Bytes.isBlank line kept) :
    trim line = kept := by
  obtain ⟨front, back, rfl, -, -, start, stop⟩ := trims.exists_indices
  rw [trim, stop, start, List.take_left, List.drop_left]

/-- Trimming takes away the blanks at the two ends. -/
theorem trims_trim (line : Bytes) : Trims Bytes.isBlank line (trim line) := by
  obtain ⟨kept, trims⟩ := exists_trims Bytes.isBlank line
  rwa [trim_eq_of_trims trims]

/-! ### The maximal trim -/

theorem trim_eq_nil_iff {line : Bytes} :
    trim line = [] ↔ ∀ byte ∈ line, Bytes.isBlank byte = true := by
  constructor
  · intro nothing byte mem
    obtain ⟨front, back, whole, frontBlank, backBlank⟩ := (trims_trim line).around
    rw [whole, nothing, List.append_nil, List.mem_append] at mem
    exact mem.elim (frontBlank byte) (backBlank byte)
  · intro blank
    apply trim_eq_of_trims
    exact ⟨⟨line, [], by simp, blank, List.forall_mem_nil _⟩, nofun, nofun⟩

/-- What trimming a line comes to. -/
structure TrimsBothEnds (line : Bytes) : Prop where
  /-- The two indices are found independently of each other, but in order. -/
  ordered : contentStart line ≤ contentEnd line
  inside : contentEnd line ≤ line.length
  /-- Only blanks lie outside of the indices, and everything else is kept. -/
  whole : line = line.take (contentStart line) ++ trim line ++ line.drop (contentEnd line)
  front : ∀ byte ∈ line.take (contentStart line), Bytes.isBlank byte = true
  back : ∀ byte ∈ line.drop (contentEnd line), Bytes.isBlank byte = true
  /-- No blank is left at either end. -/
  begins : ∀ byte ∈ (trim line).head?, Bytes.isBlank byte = false
  ends : ∀ byte ∈ (trim line).getLast?, Bytes.isBlank byte = false
  empty : trim line = [] ↔ ∀ byte ∈ line, Bytes.isBlank byte = true
  /-- Nothing else could be kept. -/
  unique : ∀ kept, Trims Bytes.isBlank line kept → kept = trim line
  again : trim (trim line) = trim line
  /-- Further blanks at the ends make no difference. -/
  absorbs : ∀ front back, (∀ byte ∈ front, Bytes.isBlank byte = true) →
    (∀ byte ∈ back, Bytes.isBlank byte = true) → trim (front ++ line ++ back) = trim line

/-- Trimming keeps what lies between the first and the last byte that is not blank, for every
line. -/
theorem trims_both_ends (line : Bytes) : TrimsBothEnds line := by
  obtain ⟨kept, trims⟩ := exists_trims Bytes.isBlank line
  have same := trim_eq_of_trims trims
  obtain ⟨front, back, whole, frontBlank, backBlank, start, stop⟩ := trims.exists_indices
  have before : line.take (contentStart line) = front := by
    rw [start, whole, List.append_assoc, List.take_left]
  have behind : line.drop (contentEnd line) = back := by
    rw [stop, whole, List.drop_left]
  constructor
  · rw [start, stop, List.length_append]
    exact Nat.le_add_right _ _
  · rw [stop, whole]
    exact (List.prefix_append _ _).length_le
  · rwa [before, behind, same]
  · rwa [before]
  · rwa [behind]
  · rw [same]
    exact trims.begins
  · rw [same]
    exact trims.ends
  · exact trim_eq_nil_iff
  · intro other others
    exact (trim_eq_of_trims others).symm
  · rw [same]
    exact trim_eq_of_trims trims.refl
  · intro outer outer' outerBlank outerBlank'
    rw [same]
    exact trim_eq_of_trims (trims.extend outerBlank outerBlank')

end Line

end ChainLaunchers
