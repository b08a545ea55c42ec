/-
Module: ChainLaunchers.Proofs.Generator.Untouched
Purpose: Bytes that no rule has to do with pass from a line into its launcher, all of them and in
  their order, whatever the encoding of the line.
Trusted boundary: none
Main exports:
  Literal.Avoids, Literal.filter_replaceAll, Literal.filter_sublist_replaceAll,
  Rule.filter_applyAll, Line.filter_trim, Generator.PassesOn, Generator.untouched_bytes_pass
-/
import ChainLaunchers.Generator
import ChainLaunchers.Proofs.Line.Trim
import ChainLaunchers.Proofs.Literal.Scan

namespace ChainLaunchers

/-! ### Replacing

A text and what replacing makes of it have the same gaps.  They differ in what stands between
the gaps, and no member to be kept stands there. -/

namespace Literal

variable {α : Type}

/-- The text holds no member to be kept. -/
def Avoids (kept : α → Bool) (text : List α) : Prop := ∀ member ∈ text, kept member = false

theorem Avoids.filter_eq_nil {kept : α → Bool} {text : List α} (avoids : Avoids kept text) :
    text.filter kept = [] := by
  rw [List.filter_eq_nil_iff]
  intro member mem
  rw [avoids member mem]
  exact Bool.false_ne_true

theorem filter_intercalate {kept : α → Bool} {between : List α} (avoids : Avoids kept between)
    (gaps : List (List α)) : (between.intercalate gaps).filter kept = gaps.flatten.filter kept := by
  induction gaps with
  | nil => rfl
  | cons gap others ih =>
      cases others with
      | nil => rw [List.intercalate_singleton, List.flatten_singleton]
      | cons next more =>
          rw [List.intercalate_cons_cons, List.flatten_cons, List.filter_append, List.filter_append,
            avoids.filter_eq_nil, List.append_nil, ih, List.filter_append]

theorem flatten_sublist_intercalate (between : List α) (gaps : List (List α)) :
    gaps.flatten.Sublist (between.intercalate gaps) := by
  induction gaps with
  | nil => exact List.Sublist.refl []
  | cons gap others ih =>
      cases others with
      | nil => rw [List.intercalate_singleton, List.flatten_singleton]
      | cons next more =>
          rw [List.intercalate_cons_cons, List.flatten_cons]
          exact (List.sublist_append_left gap between).append ih

section

variable [DecidableEq α] {kept : α → Bool} {pattern : List α}

/-- Replacing takes nothing to be kept away, if the literal holds nothing of it. -/
theorem filter_sublist_replaceAll (unsought : Avoids kept pattern) (text replacement : List α) :
    (text.filter kept).Sublist ((replaceAll text pattern replacement).filter kept) := by
  obtain ⟨gaps, divides⟩ := exists_divides pattern text
  rw [replaceAll_eq_intercalate divides, ← divides.whole, filter_intercalate unsought]
  exact (flatten_sublist_intercalate replacement gaps).filter kept

/-- Replacing also adds nothing to be kept, if the replacement holds nothing of it either. -/
theorem filter_replaceAll (unsought : Avoids kept pattern) {replacement : List α}
    (uninserted : Avoids kept replacement) (text : List α) :
    (replaceAll text pattern replacement).filter kept = text.filter kept := by
  obtain ⟨gaps, divides⟩ := exists_divides pattern text
  rw [replaceAll_eq_intercalate divides, filter_intercalate uninserted,
    ← filter_intercalate unsought, divides.whole]

end

end Literal

namespace Rule

variable {kept : UInt8 → Bool} {rules : List Rule}

theorem filter_sublist_applyAll
    (unsought : ∀ rule ∈ rules, Literal.Avoids kept (Utf8.ofString rule.pattern)) (line : Bytes) :
    (line.filter kept).Sublist ((applyAll rules line).filter kept) := by
  apply applyAll_induction (fun text => (line.filter kept).Sublist (text.filter kept))
    (List.Sublist.refl _)
  intro rule mem text survives
  exact survives.trans (Literal.filter_sublist_replaceAll (unsought rule mem) text _)

theorem filter_applyAll
    (unsought : ∀ rule ∈ rules, Literal.Avoids kept (Utf8.ofString rule.pattern))
    (uninserted : ∀ rule ∈ rules, Literal.Avoids kept (Utf8.ofString rule.replacement))
    (line : Bytes) : (applyAll rules line).filter kept = line.filter kept := by
  apply applyAll_induction (fun text => text.filter kept = line.filter kept) rfl
  intro rule mem text same
  rw [apply, Literal.filter_replaceAll (unsought rule mem) (uninserted rule mem), same]

end Rule

/-! ### Trimming -/

/-- Trimming takes nothing to be kept away, if no blank byte is to be kept. -/
theorem Line.filter_trim {kept : UInt8 → Bool}
    (visible : ∀ byte, Bytes.isBlank byte = true → kept byte = false) (line : Bytes) :
    (trim line).filter kept = line.filter kept := by
  obtain ⟨text, trims⟩ := exists_trims Bytes.isBlank line
  rw [trim_eq_of_trims trims]
  obtain ⟨front, back, rfl, frontBlank, backBlank⟩ := trims.around
  have inFront : Literal.Avoids kept front := fun byte mem => visible byte (frontBlank byte mem)
  have inBack : Literal.Avoids kept back := fun byte mem => visible byte (backBlank byte mem)
  rw [List.filter_append, List.filter_append, inFront.filter_eq_nil, inBack.filter_eq_nil,
    List.append_nil, List.nil_append]

/-! ### Launchers -/

/-- The bytes that stand for no ASCII character. -/
def Bytes.isForeign (byte : UInt8) : Bool := 128 ≤ byte

theorem Bytes.isForeign_of_isBlank {byte : UInt8} (blank : isBlank byte = true) :
    isForeign byte = false := by
  simp only [isBlank, Bool.or_eq_true, decide_eq_true_eq] at blank
  rcases blank with ((((rfl | rfl) | rfl) | rfl) | rfl) | rfl
  all_goals rfl

namespace Generator

/-- What passes from a line into the content of a launcher. -/
structure PassesOn (rules : List Rule) (line content : Bytes) : Prop where
  /-- Of bytes that are not blank, and that stand in no literal and in no replacement, the content
  holds what the line holds. -/
  same : ∀ kept : UInt8 → Bool, (∀ byte, Bytes.isBlank byte = true → kept byte = false) →
    (∀ rule ∈ rules, Literal.Avoids kept (Utf8.ofString rule.pattern)) →
    (∀ rule ∈ rules, Literal.Avoids kept (Utf8.ofString rule.replacement)) →
    content.filter kept = line.filter kept
  /-- Bytes that only replacements hold may come in between, but none is lost. -/
  survive : ∀ kept : UInt8 → Bool, (∀ byte, Bytes.isBlank byte = true → kept byte = false) →
    (∀ rule ∈ rules, Literal.Avoids kept (Utf8.ofString rule.pattern)) →
    (line.filter kept).Sublist (content.filter kept)
  foreign : (∀ rule ∈ rules, ∀ byte ∈ Utf8.ofString rule.pattern, byte < 128) →
    (line.filter Bytes.isForeign).Sublist (content.filter Bytes.isForeign)
  foreignSame : (∀ rule ∈ rules, ∀ byte ∈ Utf8.ofString rule.pattern, byte < 128) →
    (∀ rule ∈ rules, ∀ byte ∈ Utf8.ofString rule.replacement, byte < 128) →
    content.filter Bytes.isForeign = line.filter Bytes.isForeign

/-- Text of ASCII characters holds no other bytes. -/
theorem avoids_isForeign {text : Bytes} (ascii : ∀ byte ∈ text, byte < 128) :
    Literal.Avoids Bytes.isForeign text := by
  intro byte mem
  exact decide_eq_false (UInt8.not_le.2 (ascii byte mem))

section

variable {rules : List Rule} {kept : UInt8 → Bool}

theorem filter_sublist_content (visible : ∀ byte, Bytes.isBlank byte = true → kept byte = false)
    (unsought : ∀ rule ∈ rules, Literal.Avoids kept (Utf8.ofString rule.pattern)) (line : Bytes) :
    (line.filter kept).Sublist ((Line.trim (Rule.applyAll rules line)).filter kept) := by
  rw [Line.filter_trim visible]
  exact Rule.filter_sublist_applyAll unsought line

theorem filter_content (visible : ∀ byte, Bytes.isBlank byte = true → kept byte = false)
    (unsought : ∀ rule ∈ rules, Literal.Avoids kept (Utf8.ofString rule.pattern))
    (uninserted : ∀ rule ∈ rules, Literal.Avoids kept (Utf8.ofString rule.replacement))
    (line : Bytes) : (Line.trim (Rule.applyAll rules line)).filter kept = line.filter kept := by
  rw [Line.filter_trim visible, Rule.filter_applyAll unsought uninserted]

end

/-- Whenever a line has a launcher, the bytes that no rule has to do with pass into its content,
as often and in the same order as they stand on the line. -/
theorem untouched_bytes_pass {generator : Generator} {line : Bytes} {launcher : Launcher}
    (found : generator.launcher? line = some launcher) :
    PassesOn generator.rules line launcher.content := by
  obtain ⟨chain, -, rfl⟩ := Option.map_eq_some_iff.1 found
  constructor
  · intro kept visible unsought uninserted
    exact filter_content visible unsought uninserted line
  · intro kept visible unsought
    exact filter_sublist_content visible unsought line
  · intro patterns
    apply filter_sublist_content fun _ => Bytes.isForeign_of_isBlank
    intro rule mem
    exact avoids_isForeign (patterns rule mem)
  · intro patterns replacements
    apply filter_content fun _ => Bytes.isForeign_of_isBlank
    · intro rule mem
      exact avoids_isForeign (patterns rule mem)
    · intro rule mem
      exact avoids_isForeign (replacements rule mem)

/-- A line that is not UTF-8, with bytes beyond ASCII on both sides of what the rules delete. -/
theorem untouched_bytes_pass_of_latin_letters :
    ∃ launcher,
      standard.launcher? (233 :: Utf8.ofString "& -ac_name=LAT caf" ++ [233, 38, 255]) =
        some launcher ∧
      launcher.content.filter Bytes.isForeign = [233, 233, 255] := by
  have found : standard.launcher? (233 :: Utf8.ofString "& -ac_name=LAT caf" ++ [233, 38, 255]) =
      some { chain := Utf8.ofString "LAT"
             fileName := Utf8.ofString "lat.cmd"
             content := 233 :: Utf8.ofString " -ac_name=LAT caf" ++ [233, 255] } := by
    decide +kernel
  refine ⟨_, found, ?_⟩
  rw [(untouched_bytes_pass found).foreignSame (by decide +kernel) (by decide +kernel)]
  decide

end Generator

end ChainLaunchers
