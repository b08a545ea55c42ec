/-
Module: ChainLaunchers.Proofs.Run.OwnInput
Purpose: A run over a file is the run over the bytes that the file had when it was opened, unless
  a launcher that is written to this very file changes bytes that have not been read yet.
Trusted boundary: none
Main exports:
  Generator.readLines_eq, Generator.Undisturbed, Generator.readLines_file,
  Generator.SparesUnread, Generator.sparesUnread_of_short,
  Generator.own_input_is_read_as_opened, Generator.own_output_is_read
-/
import ChainLaunchers.Proofs.Run.Blocks
import ChainLaunchers.Proofs.Run.Deposits

namespace ChainLaunchers

namespace Generator

variable {generator : Generator}

/-! ### One block after another -/

/-- What a run does next, told by what it reads. -/
theorem readLines_eq (generator : Generator) (source : Source) (size : Nat) (tree : Tree)
    (offset : Nat) (pending : Bytes) :
    generator.readLines source size tree offset pending =
      match source.read tree offset size with
      | .error cause => ⟨[], tree, some cause⟩
      | .ok [] =>
        if pending = [] then ⟨[], tree, none⟩
        else
          match generator.treatAll tree [pending] with
          | (fates, after) =>
            if stops fates then ⟨fates, after, none⟩
            else (generator.readLines source size after offset []).after fates
      | .ok (byte :: bytes) =>
        match Line.cut (pending ++ byte :: bytes) with
        | (lines, unfinished) =>
          match generator.treatAll tree lines with
          | (fates, after) =>
            if stops fates then ⟨fates, after, none⟩
            else
              (generator.readLines source size after (offset + (byte :: bytes).length)
                unfinished).after fates := by
  rw [readLines]
  split
  · rename_i read
    simp only [read]
  · rename_i read
    simp only [read]
  · rename_i read
    simp only [read]

/-! ### The file while it is read -/

/-- The file at a place still holds the bytes of the data that lie behind an offset, and what can
be written to the output directory is what could be written before the run. -/
structure Undisturbed (generator : Generator) (before : Tree) (place : Place) (data : Bytes)
    (offset : Nat) (tree : Tree) : Prop where
  targets : ∀ name, tree.target? generator.outputDirectory name =
    before.target? generator.outputDirectory name
  unread : ∃ content, tree.fileAt? place = some content ∧ content.drop offset = data.drop offset

/-- If the line is written to the place, it leaves there what the data holds behind the offset. -/
def Spares (generator : Generator) (before : Tree) (place : Place) (data : Bytes) (offset : Nat)
    (line : Bytes) : Prop :=
  ∀ launcher, generator.launcher? line = some launcher →
    before.target? generator.outputDirectory launcher.fileName = some place →
    launcher.content.drop offset = data.drop offset

theorem treat_tree_of_dryRun (dry : generator.dryRun = true) (tree : Tree) (line : Bytes) :
    (generator.treat tree line).2 = tree := by
  cases found : generator.launcher? line with
  | none => rw [treat_skipped found]
  | some launcher => rw [treat_planned dry found]

section

variable {before tree : Tree} {place : Place} {data : Bytes} {offset : Nat}
  (undisturbed : generator.Undisturbed before place data offset tree)

include undisturbed

theorem Undisturbed.advance {later : Nat} (ahead : offset ≤ later) :
    generator.Undisturbed before place data later tree := by
  obtain ⟨content, present, same⟩ := undisturbed.unread
  refine ⟨undisturbed.targets, content, present, ?_⟩
  have further := congrArg (List.drop (later - offset)) same
  rwa [List.drop_drop, List.drop_drop, Nat.add_sub_of_le ahead] at further

/-- What is read of the file is what would be read of the data. -/
theorem Undisturbed.read_file {limit : Nat} (long : data.length ≤ limit) (size : Nat) :
    (Source.file place limit).read tree offset size =
      (Source.memory data none).read tree offset size := by
  obtain ⟨content, present, same⟩ := undisturbed.unread
  have block : Source.block (content.take limit) offset size = Source.block data offset size := by
    rw [Source.block, Source.block, List.drop_take, same, ← List.drop_take,
      List.take_of_length_le long]
  simp only [Source.read, Tree.fileAt?_eq_some_iff.1 present, block]

theorem Undisturbed.depositOne {launcher : Launcher}
    (spares : before.target? generator.outputDirectory launcher.fileName = some place →
      launcher.content.drop offset = data.drop offset) :
    generator.Undisturbed before place data offset (generator.depositOne tree launcher) := by
  constructor
  · intro name
    rw [← undisturbed.targets name, Tree.target?, landing?_depositOne, Tree.target?]
  · rw [Generator.depositOne, Tree.fileAt?_deposit, undisturbed.targets]
    split
    · rename_i own
      exact ⟨launcher.content, rfl, spares own⟩
    · exact undisturbed.unread

theorem Undisturbed.treat (accepted : generator.IsAccepted) {line : Bytes}
    (spares : generator.dryRun = false → generator.Spares before place data offset line) :
    generator.Undisturbed before place data offset (generator.treat tree line).2 := by
  cases flag : generator.dryRun with
  | true =>
      rw [treat_tree_of_dryRun flag]
      exact undisturbed
  | false =>
      rcases treat_tree accepted tree line with unchanged | ⟨launcher, found, deposited⟩
      · rw [unchanged]
        exact undisturbed
      · rw [deposited]
        exact undisturbed.depositOne (spares flag launcher found)

theorem Undisturbed.treatAll (accepted : generator.IsAccepted) {lines : List Bytes}
    (spares : generator.dryRun = false →
      ∀ line ∈ lines, generator.Spares before place data offset line) :
    generator.Undisturbed before place data offset (generator.treatAll tree lines).2 := by
  refine treatAll_preserves ?_ undisturbed
  intro tree line mem undisturbed
  apply undisturbed.treat accepted
  intro real
  exact spares real line mem

end

/-! ### Reading the file -/

/-- Each line spares what lies behind the block that it ends in. -/
def SparesAll (generator : Generator) (before : Tree) (place : Place) (data : Bytes)
    (size : Nat) : Prop :=
  ∀ earlier line later, Line.ofData data = earlier ++ line :: later →
    generator.Spares before place data
      (Source.blockEnd data size (earlier ++ [line]).flatten.length) line

section

variable {before : Tree} {place : Place} {data pending : Bytes} {size offset : Nat}
  {treated : List Bytes}
  (spares : generator.SparesAll before place data size)
  (reached : Line.Reached data size treated pending offset)

include spares reached

theorem SparesAll.next (nonempty : Source.block data offset size ≠ []) :
    ∀ line ∈ (Line.cut (pending ++ Source.block data offset size)).1,
      generator.Spares before place data (offset + (Source.block data offset size).length)
        line := by
  intro line mem
  obtain ⟨earlier, later, finished⟩ := List.append_of_mem mem
  have lines := (reached.next nonempty).lines
  rw [finished] at lines
  rw [← reached.blockEnd_next nonempty finished]
  apply spares
  rw [lines, List.append_assoc, List.append_assoc, List.append_assoc]
  rfl

theorem SparesAll.last (positive : 0 < size) (atEnd : data.drop offset = [])
    (nonempty : pending ≠ []) : generator.Spares before place data offset pending := by
  obtain ⟨reached', stop⟩ := reached.last positive atEnd nonempty
  rw [← stop]
  apply spares
  rw [reached'.lines, List.append_assoc]
  rfl

end

/-- As long as the file is spared, reading it is reading the data. -/
theorem readLines_file (accepted : generator.IsAccepted) {before tree : Tree} {place : Place}
    {data : Bytes} {size limit : Nat} (positive : 0 < size) (long : data.length ≤ limit)
    (spares : generator.dryRun = false → generator.SparesAll before place data size)
    {offset : Nat} {pending : Bytes} {treated : List Bytes}
    (reached : Line.Reached data size treated pending offset)
    (undisturbed : generator.Undisturbed before place data offset tree) :
    generator.readLines (.file place limit) size tree offset pending =
      generator.readLines (.memory data none) size tree offset pending := by
  generalize source : Source.memory data none = memory
  have same := undisturbed.read_file long size
  rw [source] at same
  -- Along the run over the data: each block leaves the file as undisturbed as it was.
  fun_induction readLines generator memory size tree offset pending generalizing treated with
  | case1 tree offset pending cause read => rw [readLines_eq, same, read]
  | case2 tree offset read =>
      rw [readLines_eq, same, read]
      rfl
  | case3 tree offset pending read nonempty fates after done fatal =>
      rw [readLines_eq, same, read]
      simp only [nonempty, if_false, done, fatal, if_true]
  | case4 tree offset pending read nonempty fates after done going ih =>
      subst source
      obtain ⟨-, atEnd⟩ := (Source.read_memory_ok positive read).2 rfl
      have spared : generator.dryRun = false →
          ∀ line ∈ [pending], generator.Spares before place data offset line := by
        intro real line mem
        rw [List.mem_singleton.1 mem]
        exact (spares real).last reached positive atEnd nonempty
      have undisturbed' := undisturbed.treatAll accepted spared
      rw [done] at undisturbed'
      rw [readLines_eq, same, read]
      simp only [nonempty, if_false, done, going]
      rw [ih (reached.last positive atEnd nonempty).1 undisturbed'
        (undisturbed'.read_file long size)]
      rfl
  | case5 tree offset pending byte bytes read lines unfinished cut fates after done fatal =>
      rw [readLines_eq, same, read]
      simp only [cut, done, fatal, if_true]
  | case6 tree offset pending byte bytes read lines unfinished cut fates after done going ih =>
      subst source
      obtain ⟨block, -⟩ := Source.read_memory_ok positive read
      have nonempty : Source.block data offset size ≠ [] := by
        rw [← block]
        exact List.cons_ne_nil byte bytes
      have reached' := reached.next nonempty
      have undisturbed' := (undisturbed.advance (Nat.le_add_right offset _)).treatAll accepted
        fun real => (spares real).next reached nonempty
      rw [← block, cut] at reached' undisturbed'
      rw [done] at undisturbed'
      rw [readLines_eq, same, read]
      simp only [cut, done, going]
      rw [ih reached' undisturbed' (undisturbed'.read_file long size)]
      rfl

/-! ### Whole runs -/

/-- What is written to the input file itself leaves what has not been read yet as it was: behind
the block that a line ends in, its launcher agrees with the input, if the path of the launcher
leads to the input file once its directories are there. -/
def SparesUnread (generator : Generator) (before : Tree) (path : Path) (data : Bytes)
    (size : Nat) : Prop :=
  ∀ earlier line later launcher, Line.ofData data = earlier ++ line :: later →
    generator.launcher? line = some launcher →
    (before.writeFile (generator.pathOf launcher) launcher.content).tree.locate
        (generator.pathOf launcher) = before.locate path →
    launcher.content.drop (Source.blockEnd data size (earlier ++ [line]).flatten.length) =
      data.drop (Source.blockEnd data size (earlier ++ [line]).flatten.length)

/-- A launcher that is written to a place is found there by its path. -/
theorem locate_writeFile_of_target (accepted : generator.IsAccepted) {line : Bytes}
    {launcher : Launcher} (found : generator.launcher? line = some launcher) {before : Tree}
    {place : Place}
    (target : before.target? generator.outputDirectory launcher.fileName = some place) :
    (before.writeFile (generator.pathOf launcher) launcher.content).tree.locate
      (generator.pathOf launcher) = .ok place := by
  have entry := accepted.isEntryName found
  have written := (Tree.writeFile_join entry before generator.outputDirectory launcher.content).1
  have settled : ((before.deposit generator.outputDirectory launcher.fileName
      launcher.content).settle generator.outputDirectory).1 =
        before.deposit generator.outputDirectory launcher.fileName launcher.content := by
    rw [Tree.settle_deposit]
  have present : (before.deposit generator.outputDirectory launcher.fileName
      launcher.content).fileAt? place = some launcher.content := by
    rw [Tree.fileAt?_deposit, if_pos target]
  have target' : (before.deposit generator.outputDirectory launcher.fileName
      launcher.content).target? generator.outputDirectory launcher.fileName = some place := by
    rw [Tree.target?, Tree.landing?_deposit]
    exact target
  rw [pathOf, written]
  exact (Tree.readFile_of_target entry settled target' present).1

theorem SparesUnread.sparesAll (accepted : generator.IsAccepted) {before : Tree} {path : Path}
    {data : Bytes} {size : Nat} (spares : generator.SparesUnread before path data size)
    {place : Place} (located : before.locate path = .ok place) :
    generator.SparesAll before place data size := by
  intro earlier line later lines launcher found target
  apply spares earlier line later launcher lines found
  rw [locate_writeFile_of_target accepted found target, located]

/-- An input of a single block is spared by launchers that are not longer than itself. -/
theorem sparesUnread_of_short {data : Bytes} {size : Nat} (fits : data.length ≤ size)
    (short : ∀ launcher ∈ generator.launchers (Line.ofData data),
      launcher.content.length ≤ data.length) (before : Tree) (path : Path) :
    generator.SparesUnread before path data size := by
  intro earlier line later launcher lines found _
  have single : Source.blockEnd data size (earlier ++ [line]).flatten.length = data.length := by
    have reaches : size ≤ (((earlier ++ [line]).flatten.length - 1) / size + 1) * size :=
      Nat.le_mul_of_pos_left size (Nat.succ_pos _)
    exact Nat.min_eq_left (Nat.le_trans fits reaches)
  have mem : launcher ∈ generator.launchers (Line.ofData data) := by
    rw [lines]
    exact List.mem_filterMap.2 ⟨line, List.mem_append_right earlier List.mem_cons_self, found⟩
  rw [single, List.drop_length, List.drop_eq_nil_of_le (short launcher mem)]

/-- A run over a file is the run over the bytes that the file had when it was opened, if what is
written to the file itself leaves alone what has not been read of it: it has the same result,
leaves the same tree and tells the same after the file has been opened. -/
theorem own_input_is_read_as_opened (accepted : generator.IsAccepted) {before : Tree}
    {path : Path} {data : Bytes} (file : before.readFile path = .ok data)
    (spares : generator.dryRun = false → generator.SparesUnread before path data blockSize)
    {size : Nat} (positive : 0 < size) :
    (generator.runFile path before).result =
        (generator.runOver (.memory data none) size path before).result ∧
      (generator.runFile path before).tree =
        (generator.runOver (.memory data none) size path before).tree ∧
      (generator.runFile path before).events =
        .reading path :: (generator.runOver (.memory data none) size path before).events := by
  obtain ⟨place, located, present⟩ := Tree.readFile_eq_ok_iff.1 file
  have opened : before.openFile path =
      .ok (.file place (max data.length Source.lastOffset)) := by
    simp only [Tree.openFile, located, bind, Except.bind, Tree.fileAt?_eq_some_iff.1 present]
  have undisturbed : generator.Undisturbed before place data 0 before :=
    ⟨fun _ => rfl, data, present, rfl⟩
  have positive' : 0 < blockSize := by decide
  have same : generator.run (.file place (max data.length Source.lastOffset)) blockSize before =
      generator.run (.memory data none) size before := by
    rw [run, readLines_file accepted positive' (Nat.le_max_left _ _)
      (fun real => (spares real).sparesAll accepted located) (Line.reached_start data blockSize)
      undisturbed, ← run, run_memory_none generator positive', run_memory_none generator positive]
  have outcome : generator.runFile path before =
      { generator.runOver (.memory data none) size path before with
        events := .reading path ::
          (generator.runOver (.memory data none) size path before).events } := by
    rw [runFile, opened]
    simp only [runOver, same]
  rw [outcome]
  exact ⟨rfl, rfl, rfl⟩

/-- The path of a launcher of the default settings. -/
def namesake : Path := Utf8.ofString "a.cmd"

/-- A working directory in which a command list has this path. -/
def holding (list : Bytes) : Tree := Tree.root.put [] namesake (.file list)

/-- A list that is longer than the launcher of its first line. -/
def shrinking : Bytes := Utf8.ofString "-ac_name=A -gen &\n-ac_name=B\n"

/-- A list that is shorter than the launcher of its only line. -/
def growing : Bytes := Utf8.ofString "./komodod -ac_name=A &\n"

theorem sparesUnread_shrinking :
    standard.SparesUnread (holding shrinking) namesake shrinking blockSize :=
  sparesUnread_of_short (by decide) (by decide +kernel) _ _

/-- The first line replaces the list by its launcher, and the second line is read nevertheless. -/
theorem own_input_is_read_as_opened_where_it_shrinks :
    (holding shrinking).readFile namesake = .ok shrinking ∧
    (standard.dryRun = false →
      standard.SparesUnread (holding shrinking) namesake shrinking blockSize) ∧ 0 < 1 ∧
    (standard.runFile namesake (holding shrinking)).result =
        (standard.runOver (.memory shrinking none) 1 namesake (holding shrinking)).result ∧
      (standard.runFile namesake (holding shrinking)).tree =
        (standard.runOver (.memory shrinking none) 1 namesake (holding shrinking)).tree ∧
      (standard.runFile namesake (holding shrinking)).events = .reading namesake ::
        (standard.runOver (.memory shrinking none) 1 namesake (holding shrinking)).events :=
  ⟨by decide +kernel, fun _ => sparesUnread_shrinking, by decide,
    own_input_is_read_as_opened (isAccepted_standard false false) (by decide +kernel)
      (fun _ => sparesUnread_shrinking) (by decide)⟩

/-- A run can read its own output.  The launcher of the only line is longer than the list that it
replaces; its end is read as a second line, and the launcher of that line is what remains. -/
theorem own_output_is_read : standard.IsAccepted ∧
    (holding growing).readFile namesake = .ok growing ∧
    (standard.runFile namesake (holding growing)).result ≠
      (standard.runOver (.memory growing none) blockSize namesake (holding growing)).result ∧
    (standard.runFile namesake (holding growing)).tree.readFile namesake =
      .ok (Utf8.ofString ".exe -ac_name=A") ∧
    (standard.runOver (.memory growing none) blockSize namesake
        (holding growing)).tree.readFile namesake =
      .ok (Utf8.ofString "start ..\\KomodoOceanGUI.exe -ac_name=A") :=
  ⟨isAccepted_standard false false, by decide +kernel, by decide +kernel, by decide +kernel,
    by decide +kernel⟩

end Generator

end ChainLaunchers
