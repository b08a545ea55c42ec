/-
Module: ChainLaunchers.Proofs.Run.CleanLines
Purpose: Whatever a run reads, each launcher that it writes is a single line without blanks at its
  ends, and without the bytes that the rules delete.
Trusted boundary: none
Main exports:
  Line.IsSingle, Line.feed_not_mem_trim, Rule.isSingle_applyAll, Generator.IsCleanLine,
  Generator.exists_lines_readLines, Generator.fileAt?_treatAll, Generator.WritesCleanLines,
  Generator.writes_clean_lines
-/
import ChainLaunchers.Proofs.Generator.Namesake
import ChainLaunchers.Proofs.Literal.Elimination
import ChainLaunchers.Proofs.Run.Deposits
import ChainLaunchers.Proofs.Run.Report

namespace ChainLaunchers

/-! ### Members that stand at the end only

Replacing never moves a member away from the end of a text: what follows the last occurrence
stays at the end, and an occurrence that takes the end in is replaced as a whole. -/

namespace Literal

variable {α : Type} {member : α}

theorem not_mem_dropLast_append {left right : List α} (inLeft : member ∉ left)
    (inRight : member ∉ right.dropLast) : member ∉ (left ++ right).dropLast := by
  by_cases empty : right = []
  · rw [empty, List.append_nil]
    exact mt List.mem_of_mem_dropLast inLeft
  · rw [List.dropLast_append_of_ne_nil empty, List.mem_append, not_or]
    exact ⟨inLeft, inRight⟩

/-- A member that stands in a text at the end at most stands nowhere in a first part, and in the
last part at the end at most. -/
theorem not_mem_of_not_mem_dropLast_append {left right : List α} (some : right ≠ [])
    (absent : member ∉ (left ++ right).dropLast) : member ∉ left ∧ member ∉ right.dropLast := by
  rwa [List.dropLast_append_of_ne_nil some, List.mem_append, not_or] at absent

theorem Divides.not_mem_dropLast_intercalate {pattern replacement text : List α}
    {gaps : List (List α)} (divides : Divides pattern text gaps)
    (uninserted : member ∉ replacement) (absent : member ∉ text.dropLast) :
    member ∉ (replacement.intercalate gaps).dropLast := by
  induction divides with
  | last _ =>
      rw [List.intercalate_singleton]
      exact absent
  | @next gap rest gaps occurs _ others ih =>
      rw [List.append_assoc] at absent
      obtain ⟨inGap, behind⟩ := not_mem_of_not_mem_dropLast_append
        (List.append_ne_nil_of_left_ne_nil occurs rest) absent
      have inRest : member ∉ rest.dropLast := by
        by_cases empty : rest = []
        · rw [empty]
          exact List.not_mem_nil
        · exact (not_mem_of_not_mem_dropLast_append empty behind).2
      obtain ⟨next, more, rfl⟩ := List.exists_cons_of_ne_nil others.gaps_ne_nil
      rw [List.intercalate_cons_cons]
      apply not_mem_dropLast_append _ (ih inRest)
      rw [List.mem_append, not_or]
      exact ⟨inGap, uninserted⟩

end Literal

/-! ### Single lines -/

namespace Line

/-- No line feed stands in the text, but for one at its end. -/
def IsSingle (text : Bytes) : Prop := feed ∉ text.dropLast

theorem isSingle_of_not_mem {text : Bytes} (unbroken : feed ∉ text) : IsSingle text :=
  mt List.mem_of_mem_dropLast unbroken

/-- The finished lines that are cut off some data are single lines. -/
theorem isSingle_of_mem_cut (data : Bytes) : ∀ line ∈ (cut data).1, IsSingle line := by
  induction data using data_induction with
  | unfinished body unbroken =>
      rw [cut_of_not_mem unbroken]
      exact List.forall_mem_nil _
  | finished body rest unbroken ih =>
      rw [cut_append_feed unbroken]
      refine List.forall_mem_cons.2 ⟨?_, ih⟩
      rw [IsSingle, List.dropLast_concat]
      exact unbroken

theorem mem_of_mem_trim {byte : UInt8} {text : Bytes} (mem : byte ∈ trim text) : byte ∈ text :=
  List.mem_of_mem_take (List.mem_of_mem_drop mem)

/-- The line feed of a single line is trimmed away. -/
theorem feed_not_mem_trim {text : Bytes} (single : IsSingle text) : feed ∉ trim text := by
  obtain ⟨kept, trims⟩ := exists_trims Bytes.isBlank text
  rw [trim_eq_of_trims trims]
  obtain ⟨front, back, rfl, -, -⟩ := trims.around
  cases last : kept.getLast? with
  | none =>
      rw [List.getLast?_eq_none_iff.1 last]
      exact List.not_mem_nil
  | some byte =>
      obtain ⟨inner, rfl⟩ := List.getLast?_eq_some_iff.1 last
      have visible := trims.ends byte last
      -- In front of the last byte that is kept, the text goes on.
      have absent : feed ∉ inner := by
        rw [IsSingle, ← List.append_assoc, List.append_assoc _ [byte]] at single
        have inFront := (Literal.not_mem_of_not_mem_dropLast_append (by simp) single).1
        exact fun mem => inFront (List.mem_append_right front mem)
      intro mem
      rcases List.mem_append.1 mem with earlier | same
      · exact absent earlier
      · rw [← List.mem_singleton.1 same] at visible
        cases visible

end Line

namespace Rule

theorem isSingle_apply {rule : Rule} (unbroken : Line.feed ∉ Utf8.ofString rule.replacement)
    {text : Bytes} (single : Line.IsSingle text) : Line.IsSingle (rule.apply text) := by
  obtain ⟨gaps, divides⟩ := Literal.exists_divides (Utf8.ofString rule.pattern) text
  rw [apply, Literal.replaceAll_eq_intercalate divides]
  exact divides.not_mem_dropLast_intercalate unbroken single

/-- Rules whose replacements hold no line feed keep a single line single. -/
theorem isSingle_applyAll {rules : List Rule}
    (unbroken : ∀ rule ∈ rules, Line.feed ∉ Utf8.ofString rule.replacement) {text : Bytes}
    (single : Line.IsSingle text) : Line.IsSingle (applyAll rules text) := by
  apply applyAll_induction Line.IsSingle single
  intro rule mem text single
  exact isSingle_apply (unbroken rule mem) single

end Rule

namespace Generator

/-! ### Clean lines -/

/-- A content that can stand for a line by itself: what a launcher holds when these rules have
made it. -/
structure IsCleanLine (rules : List Rule) (content : Bytes) : Prop where
  begins : ∀ byte ∈ content.head?, Bytes.isBlank byte = false
  ends : ∀ byte ∈ content.getLast?, Bytes.isBlank byte = false
  unbroken : (∀ rule ∈ rules, Line.feed ∉ Utf8.ofString rule.replacement) → Line.feed ∉ content
  /-- A byte that a rule deletes is gone, unless a later rule brings it back. -/
  deleted : ∀ earlier literal later byte, rules = earlier ++ .remove literal :: later →
    Utf8.ofString literal = [byte] →
    (∀ rule ∈ later, byte ∉ Utf8.ofString rule.replacement) → byte ∉ content

/-- What the rules and the trimming make of a single line is a clean one. -/
theorem isCleanLine_trim (rules : List Rule) {line : Bytes} (single : Line.IsSingle line) :
    IsCleanLine rules (Line.trim (Rule.applyAll rules line)) := by
  obtain ⟨kept, trims⟩ := Line.exists_trims Bytes.isBlank (Rule.applyAll rules line)
  have same := Line.trim_eq_of_trims trims
  refine ⟨same ▸ trims.begins, same ▸ trims.ends, ?_, ?_⟩
  · intro unbroken
    exact Line.feed_not_mem_trim (Rule.isSingle_applyAll unbroken single)
  · rintro earlier literal later byte rfl alone missing
    apply mt Line.mem_of_mem_trim
    rw [Rule.applyAll_append, Rule.applyAll_cons]
    exact Rule.not_mem_applyAll missing (Rule.not_mem_apply_remove alone _)

variable {generator : Generator}

theorem isCleanLine_content {line : Bytes} (single : Line.IsSingle line) {launcher : Launcher}
    (found : generator.launcher? line = some launcher) :
    IsCleanLine generator.rules launcher.content := by
  obtain ⟨chain, -, rfl⟩ := Option.map_eq_some_iff.1 found
  exact isCleanLine_trim generator.rules single

/-! ### The lines of a run -/

/-- A run that reads on treats some single lines one after another, whatever its source, and
however the source changes meanwhile. -/
theorem exists_lines_readLines (generator : Generator) (source : Source) (size : Nat)
    (tree : Tree) (offset : Nat) {pending : Bytes} (unbroken : Line.feed ∉ pending) :
    ∃ lines, (∀ line ∈ lines, Line.IsSingle line) ∧
      (generator.readLines source size tree offset pending).fates =
        (generator.treatAll tree lines).1 ∧
      (generator.readLines source size tree offset pending).tree =
        (generator.treatAll tree lines).2 := by
  fun_induction readLines generator source size tree offset pending with
  | case1 => exact ⟨[], List.forall_mem_nil _, rfl, rfl⟩
  | case2 => exact ⟨[], List.forall_mem_nil _, rfl, rfl⟩
  | case3 tree offset pending _ _ fates after treated =>
      have own := List.forall_mem_singleton.2 (Line.isSingle_of_not_mem unbroken)
      exact ⟨[pending], own, by rw [treated], by rw [treated]⟩
  | case4 tree offset pending _ _ fates after treated going ih =>
      obtain ⟨lines, single, sameFates, sameTree⟩ := ih List.not_mem_nil
      have own := Line.isSingle_of_not_mem unbroken
      refine ⟨[pending] ++ lines, List.forall_mem_cons.2 ⟨own, single⟩, ?_, ?_⟩
      · rw [treatAll_append, treated, Run.after, sameFates, if_neg going]
      · rw [treatAll_append, treated, Run.after, sameTree, if_neg going]
  | case5 tree offset pending byte bytes _ lines unfinished cut fates after treated =>
      have own := Line.isSingle_of_mem_cut (pending ++ byte :: bytes)
      rw [cut] at own
      exact ⟨lines, own, by rw [treated], by rw [treated]⟩
  | case6 tree offset pending byte bytes _ lines unfinished cut fates after treated going ih =>
      have own := Line.isSingle_of_mem_cut (pending ++ byte :: bytes)
      have rest := Line.feed_not_mem_unfinished (pending ++ byte :: bytes)
      rw [cut] at own rest
      obtain ⟨others, single, sameFates, sameTree⟩ := ih rest
      refine ⟨lines ++ others, List.forall_mem_append.2 ⟨own, single⟩, ?_, ?_⟩
      · rw [treatAll_append, treated, Run.after, sameFates, if_neg going]
      · rw [treatAll_append, treated, Run.after, sameTree, if_neg going]

/-- Every fate is that of a line, and tells of the launcher of this line. -/
theorem exists_line_of_mem_treatAll {tree : Tree} {lines : List Bytes} {fate : Fate}
    (mem : fate ∈ (generator.treatAll tree lines).1) :
    ∃ line ∈ lines, fate.launcher? = generator.launcher? line := by
  obtain ⟨before, line, present, rfl⟩ := exists_treat_of_mem_treatAll mem
  exact ⟨line, present, treat_launcher? generator before line⟩

/-- A file that stands in the tree after some lines stood there before, or holds the content of a
launcher of one of the lines. -/
theorem fileAt?_treatAll (accepted : generator.IsAccepted) {tree : Tree} {lines : List Bytes}
    {place : Place} {content : Bytes}
    (present : (generator.treatAll tree lines).2.fileAt? place = some content) :
    tree.fileAt? place = some content ∨
      ∃ launcher ∈ generator.launchers lines, launcher.content = content := by
  rw [treatAll_eq_depositAll accepted, fileAt?_depositAll] at present
  split at present
  · rename_i final last
    right
    have mem := List.mem_of_mem_filter (List.mem_of_getLast? last)
    exact ⟨final, mem_launchers_of_attempted accepted mem, Option.some.inj present⟩
  · exact Or.inl present

/-! ### Whole runs -/

/-- What the runs of a generator write are clean lines. -/
structure WritesCleanLines (generator : Generator) : Prop where
  /-- Every launcher of a run holds a clean line, whether it is written, planned or refused. -/
  launchers : ∀ source size before, ∀ fate ∈ (generator.run source size before).fates,
    ∀ launcher ∈ fate.launcher?, IsCleanLine generator.rules launcher.content
  /-- A file that has come or changed holds a clean line. -/
  files : ∀ source size label before place content,
    (generator.runOver source size label before).tree.fileAt? place = some content →
      before.fileAt? place = some content ∨ IsCleanLine generator.rules content
  /-- With the usual rules, neither an ampersand nor a line feed gets into a launcher. -/
  usual : generator.rules = Rule.standard → ∀ source size before,
    ∀ fate ∈ (generator.run source size before).fates,
      ∀ launcher ∈ fate.launcher?, 38 ∉ launcher.content ∧ Line.feed ∉ launcher.content

theorem IsCleanLine.usual {content : Bytes} (clean : IsCleanLine Rule.standard content) :
    38 ∉ content ∧ Line.feed ∉ content := by
  constructor
  · exact clean.deleted [.replace "./komodod " Rule.startCommand] "&" _ 38 rfl (by decide)
      (by decide)
  · exact clean.unbroken (by decide)

theorem isCleanLine_of_mem_fates {source : Source} {size : Nat} {before : Tree} {fate : Fate}
    (mem : fate ∈ (generator.run source size before).fates) {launcher : Launcher}
    (named : launcher ∈ fate.launcher?) : IsCleanLine generator.rules launcher.content := by
  obtain ⟨lines, single, fates, -⟩ :=
    exists_lines_readLines generator source size before 0 List.not_mem_nil
  rw [run, fates] at mem
  obtain ⟨line, present, same⟩ := exists_line_of_mem_treatAll mem
  exact isCleanLine_content (single line present) (same.symm.trans named)

/-- Every launcher is one clean line.  Whatever an accepted generator reads, and in whatever blocks,
it writes no content with a blank at its ends, with a line feed that no replacement holds, or with
a byte that a rule deletes and no later one brings back. -/
theorem writes_clean_lines (accepted : generator.IsAccepted) : generator.WritesCleanLines := by
  constructor
  · intro source size before fate mem launcher named
    exact isCleanLine_of_mem_fates mem named
  · intro source size label before place content present
    obtain ⟨lines, single, -, tree⟩ :=
      exists_lines_readLines generator source size before 0 List.not_mem_nil
    rw [runOver, Run.outcome, run, tree] at present
    rcases fileAt?_treatAll accepted present with old | ⟨launcher, mem, rfl⟩
    · exact Or.inl old
    · obtain ⟨line, present, found⟩ := List.mem_filterMap.1 mem
      exact Or.inr (isCleanLine_content (single line present) found)
  · intro rules source size before fate mem launcher named
    have clean := isCleanLine_of_mem_fates mem named
    rw [rules] at clean
    exact clean.usual

/-- A line that tries to bring in a second command, read in blocks of three bytes. -/
theorem writes_clean_lines_of_second_command :
    standard.IsAccepted ∧
      ∃ launcher, Fate.written launcher ∈
          (standard.run (.memory (Utf8.ofString "&-ac_name=A &$1& del x\r\n&\n") none) 3
            Tree.root).fates ∧
        38 ∉ launcher.content ∧ Line.feed ∉ launcher.content := by
  have accepted : standard.IsAccepted := isAccepted_standard false false
  have written : Fate.written ⟨Utf8.ofString "A", Utf8.ofString "a.cmd",
      Utf8.ofString "-ac_name=A  del x"⟩ ∈
        (standard.run (.memory (Utf8.ofString "&-ac_name=A &$1& del x\r\n&\n") none) 3
          Tree.root).fates := by
    decide +kernel
  exact ⟨accepted, _, written,
    (writes_clean_lines accepted).usual rfl _ _ _ _ written _ rfl⟩

end Generator

end ChainLaunchers
