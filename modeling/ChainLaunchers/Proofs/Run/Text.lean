/-
Module: ChainLaunchers.Proofs.Run.Text
Purpose: Rewriting works on bytes, and yet a line of text is treated as its characters ask: no
  character is split, and what is written of a text is a text.
Trusted boundary: none
Main exports:
  Rule.applyAll_eq_encode, Generator.TextOf, Generator.content_eq_encode,
  Generator.ChangesToText, Generator.RespectsText, Generator.respects_text
-/
import ChainLaunchers.Proofs.Line.Characters
import ChainLaunchers.Proofs.Run.Deposits

namespace ChainLaunchers

/-! ### Lines of text -/

/-- Rules rewrite the bytes of a text into those of the one text that its characters become. -/
theorem Rule.applyAll_eq_encode (rules : List Rule) {line : Bytes} {text : List Char}
    (reads : Utf8.decode? line = some text) :
    ∃ result, (∀ other, Rule.Rewrites rules text other ↔ other = result) ∧
      Rule.applyAll rules line = Utf8.encode result := by
  obtain rfl := (Utf8.decode?_eq_some_iff line text).1 reads
  obtain ⟨result, rewrites⟩ := Rule.exists_rewrites rules text
  refine ⟨result, ?_, Rule.applyAll_of_rewrites rewrites⟩
  intro other
  constructor
  · intro rewrites'
    exact rewrites'.unique rewrites
  · rintro rfl
    exact rewrites

namespace Generator

/-- What a launcher of a text is to hold: the rewritten text, without the blank characters at
its ends. -/
def TextOf (generator : Generator) (text kept : List Char) : Prop :=
  ∃ result, Rule.Rewrites generator.rules text result ∧
    Line.Trims Line.isBlankCharacter result kept

theorem content_eq_encode {generator : Generator} {line : Bytes} {text : List Char}
    (reads : Utf8.decode? line = some text) {launcher : Launcher}
    (found : generator.launcher? line = some launcher) :
    ∃ kept, (∀ other, generator.TextOf text other ↔ other = kept) ∧
      launcher.content = Utf8.encode kept := by
  obtain ⟨result, only, rewritten⟩ := Rule.applyAll_eq_encode generator.rules reads
  obtain ⟨kept, trims⟩ := Line.exists_trims Line.isBlankCharacter result
  refine ⟨kept, ?_, ?_⟩
  · intro other
    constructor
    · rintro ⟨result', rewrites, trims'⟩
      obtain rfl := (only result').1 rewrites
      exact trims'.unique trims
    · rintro rfl
      exact ⟨result, (only result).2 rfl, trims⟩
  · obtain ⟨chain, -, rfl⟩ := Option.map_eq_some_iff.1 found
    change Line.trim (Rule.applyAll generator.rules line) = Utf8.encode kept
    rw [rewritten, Line.trim_of_trims trims]

theorem isValid_content {generator : Generator} {line : Bytes} (valid : Utf8.isValid line = true)
    {launcher : Launcher} (found : generator.launcher? line = some launcher) :
    Utf8.isValid launcher.content = true := by
  obtain ⟨text, written⟩ := (Utf8.isValid_iff line).1 valid
  have reads := (Utf8.decode?_eq_some_iff line text).2 written
  obtain ⟨kept, -, content⟩ := content_eq_encode reads found
  exact (Utf8.isValid_iff launcher.content).2 ⟨kept, content.symm⟩

/-! ### Files -/

/-- Every file is as it was before, or holds a text. -/
def ChangesToText (before after : Tree) : Prop :=
  ∀ place content, after.fileAt? place = some content →
    before.fileAt? place = some content ∨ Utf8.isValid content = true

theorem ChangesToText.refl (tree : Tree) : ChangesToText tree tree := by
  intro place content present
  exact Or.inl present

theorem ChangesToText.trans {first second third : Tree} (earlier : ChangesToText first second)
    (later : ChangesToText second third) : ChangesToText first third := by
  intro place content present
  rcases later place content present with old | text
  · exact earlier place content old
  · exact Or.inr text

/-- A line of text changes files to texts only. -/
theorem changesToText_treat {generator : Generator} (accepted : generator.IsAccepted)
    (tree : Tree) {line : Bytes} (valid : Utf8.isValid line = true) :
    ChangesToText tree (generator.treat tree line).2 := by
  intro place content present
  rcases treat_tree accepted tree line with unchanged | ⟨launcher, found, deposited⟩
  · rw [unchanged] at present
    exact Or.inl present
  · rw [deposited, depositOne, Tree.fileAt?_deposit] at present
    split at present
    · obtain rfl := Option.some.inj present
      exact Or.inr (isValid_content valid found)
    · exact Or.inl present

theorem changesToText_treatAll {generator : Generator} (accepted : generator.IsAccepted)
    (tree : Tree) {lines : List Bytes} (valid : ∀ line ∈ lines, Utf8.isValid line = true) :
    ChangesToText tree (generator.treatAll tree lines).2 := by
  apply treatAll_preserves
  · intro middle line mem earlier
    exact earlier.trans (changesToText_treat accepted middle (valid line mem))
  · exact ChangesToText.refl tree

/-! ### Data that is text -/

theorem isValid_line {data line : Bytes} (valid : Utf8.isValid data = true)
    (mem : line ∈ Line.ofData data) : Utf8.isValid line = true := by
  obtain ⟨text, rfl⟩ := (Utf8.isValid_iff data).1 valid
  exact (Utf8.isValid_iff line).2 (Line.exists_of_mem_ofData mem)

variable {generator : Generator}

/-- Every launcher that is attempted for the lines of a text holds a text. -/
theorem isValid_of_attempted (accepted : generator.IsAccepted) {data : Bytes}
    (valid : Utf8.isValid data = true) {failure : Option IoError} {tree : Tree}
    {launcher : Launcher}
    (mem : launcher ∈ (generator.treatAll tree (Line.delivered data failure)).1.filterMap
      Fate.attempted?) :
    Utf8.isValid launcher.content = true := by
  obtain ⟨line, present, found⟩ := List.mem_filterMap.1 (mem_launchers_of_attempted accepted mem)
  exact isValid_content (isValid_line valid (Line.mem_ofData_of_mem_delivered present)) found

/-! ### Events -/

/-- A file that is told to be written is that of a launcher that was written. -/
theorem exists_written_of_wrote {path : Path} {number : Nat} {seen : List Name}
    {fates : List Fate} (mem : Event.wrote path ∈ Event.ofFates generator number seen fates) :
    ∃ launcher, Fate.written launcher ∈ fates ∧ path = generator.pathOf launcher := by
  rcases Event.mem_ofFates mem with
    ⟨line, skipped⟩ | ⟨line, fileName, repeated⟩ | ⟨fate, present, own⟩
  · cases skipped
  · cases repeated
  · cases fate with
    | written launcher =>
        cases List.mem_singleton.1 own
        exact ⟨launcher, present, rfl⟩
    | planned launcher => cases List.mem_singleton.1 own
    | refused launcher cause => cases List.mem_singleton.1 own
    | skipped => cases own
    | fatal launcher cause => cases own

theorem exists_written_of_event {run : Run} {label path : Path}
    (mem : Event.wrote path ∈ run.events generator label) :
    ∃ launcher, Fate.written launcher ∈ run.fates ∧ path = generator.pathOf launcher := by
  rw [Run.events, Run.ledger_eq_ofFates, List.mem_append] at mem
  rcases mem with treated | summary
  · exact exists_written_of_wrote treated
  · split at summary
    · cases List.mem_singleton.1 summary
    · cases summary

/-- What is told to be written for the lines of a text can be read back as text. -/
theorem readFile_of_wrote (accepted : generator.IsAccepted) {data : Bytes}
    (valid : Utf8.isValid data = true) {failure : Option IoError} {label path : Path}
    {before : Tree}
    (wrote : Event.wrote path ∈ (generator.runOfLines before (Line.delivered data failure)
      failure).events generator label) :
    ∃ content, (generator.runOfLines before (Line.delivered data failure) failure).tree.readFile
      path = .ok content ∧ Utf8.isValid content = true := by
  obtain ⟨launcher, written, rfl⟩ := exists_written_of_event wrote
  have attempted : launcher ∈ (generator.treatAll before (Line.delivered data failure)).1.filterMap
      Fate.attempted? := List.mem_filterMap.2 ⟨_, written, rfl⟩
  have entry := isEntryName_of_mem_launchers accepted
    (mem_launchers_of_attempted accepted attempted)
  obtain ⟨place, target⟩ := lands_iff.1 (lands_of_written accepted written)
  obtain ⟨final, last, read⟩ := readFile_depositAll attempted entry target
  refine ⟨final.content, ?_, ?_⟩
  · rw [← read, ← treatAll_eq_depositAll accepted]
    rfl
  · have finalMem := List.mem_of_mem_filter (List.mem_of_getLast? last)
    exact isValid_of_attempted accepted valid finalMem

/-! ### Whole runs -/

/-- A generator treats text as text. -/
structure RespectsText (generator : Generator) : Prop where
  /-- Whatever the rules, they do to the bytes of a line what they do to its characters. -/
  rules : ∀ (rules : List Rule) (line : Bytes) (text : List Char),
    Utf8.decode? line = some text →
      ∃ result, (∀ other, Rule.Rewrites rules text other ↔ other = result) ∧
        Rule.applyAll rules line = Utf8.encode result
  /-- No character is split: where the bytes of a literal occur, the literal occurs in the text,
  and what a rule leaves of the text is whole characters. -/
  unsplit : ∀ (rule : Rule) (text : List Char),
    ∃ parts, Literal.Divides rule.pattern.toList text parts ∧
      (∀ gaps, Literal.Divides (Utf8.ofString rule.pattern) (Utf8.encode text) gaps ↔
        gaps = parts.map Utf8.encode) ∧
      rule.apply (Utf8.encode text) =
        (Utf8.ofString rule.replacement).intercalate (parts.map Utf8.encode)
  content : ∀ (line : Bytes) (text : List Char) (launcher : Launcher),
    Utf8.decode? line = some text → generator.launcher? line = some launcher →
      ∃ kept, (∀ other, generator.TextOf text other ↔ other = kept) ∧
        launcher.content = Utf8.encode kept
  /-- A line of text changes files to texts only, wherever the line comes from. -/
  line : ∀ (tree : Tree) (line : Bytes), Utf8.isValid line = true →
    ChangesToText tree (generator.treat tree line).2
  lines : ∀ data line : Bytes, Utf8.isValid data = true → line ∈ Line.ofData data →
    Utf8.isValid line = true
  /-- What a run over a text has written can be read back as text. -/
  written : ∀ (data : Bytes) (failure : Option IoError) (size : Nat) (label : Path)
    (before : Tree) (path : Path), Utf8.isValid data = true → 0 < size →
      Event.wrote path ∈
        (generator.runOver (.memory data failure) size label before).events →
      ∃ content, (generator.runOver (.memory data failure) size label before).tree.readFile path =
        .ok content ∧ Utf8.isValid content = true
  files : ∀ (data : Bytes) (failure : Option IoError) (size : Nat) (label : Path)
    (before : Tree), Utf8.isValid data = true → 0 < size →
      ChangesToText before
        (generator.runOver (.memory data failure) size label before).tree

/-- UTF-8 is respected although rewriting works on bytes.  An accepted generator makes of a line
of text what its rules and the trimming make of the characters, and everything that it writes of
a text is a text. -/
theorem respects_text (accepted : generator.IsAccepted) : generator.RespectsText := by
  constructor
  · intro rules line text reads
    exact Rule.applyAll_eq_encode rules reads
  · intro rule text
    obtain ⟨parts, divides⟩ := Literal.exists_divides rule.pattern.toList text
    exact ⟨parts, divides, divides.encode_iff, Rule.apply_eq_intercalate rule divides⟩
  · intro line text launcher reads found
    exact content_eq_encode reads found
  · intro tree line valid
    exact changesToText_treat accepted tree valid
  · intro data line valid mem
    exact isValid_line valid mem
  · intro data failure size label before path valid positive wrote
    rw [runOver, run_memory generator positive] at wrote ⊢
    exact readFile_of_wrote accepted valid wrote
  · intro data failure size label before valid positive
    rw [runOver, run_memory generator positive]
    apply changesToText_treatAll accepted
    intro line mem
    exact isValid_line valid (Line.mem_ofData_of_mem_delivered mem)

/-- A removed sign stands between two letters of two bytes each, and these stay whole. -/
theorem respects_text_of_accents :
    Utf8.decode? (Utf8.ofString "-ac_name=BEER é&é\n") = some "-ac_name=BEER é&é\n".toList ∧
      ∃ kept, (∀ other, standard.TextOf "-ac_name=BEER é&é\n".toList other ↔ other = kept) ∧
        Utf8.ofString "-ac_name=BEER éé" = Utf8.encode kept :=
  ⟨by decide +kernel, (respects_text (isAccepted_standard false false)).content
    (Utf8.ofString "-ac_name=BEER é&é\n") "-ac_name=BEER é&é\n".toList
    ⟨Utf8.ofString "BEER", Utf8.ofString "beer.cmd", Utf8.ofString "-ac_name=BEER éé"⟩
    (by decide +kernel) (by decide +kernel)⟩

end Generator

end ChainLaunchers
