/-
Module: ChainLaunchers.Proofs.Yaml.BlankText
Purpose: A text of white space is no collection: what YAML does not pass over of it is read as
  plain scalars.
Trusted boundary: none
Main exports:
  Yaml.AllWhite, Yaml.Stream.Quiet, Yaml.Token.IsScalar, Yaml.Document.root_of_isBlankText
-/
import ChainLaunchers.Text.Whitespace
import ChainLaunchers.Yaml.Composition

namespace ChainLaunchers.Yaml

/-! ### Cells -/

/-- Cells that hold nothing but white space. -/
def AllWhite (cells : List Cell) : Prop :=
  ∀ cell ∈ cells, Whitespace.isBlank cell.character = true

theorem allWhite_cons {cell : Cell} {cells : List Cell} :
    AllWhite (cell :: cells) ↔ Whitespace.isBlank cell.character = true ∧ AllWhite cells :=
  List.forall_mem_cons

theorem AllWhite.of_suffix {cells rest : List Cell} (white : AllWhite cells)
    (suffix : rest <:+ cells) : AllWhite rest :=
  fun cell mem => white cell (suffix.subset mem)

theorem isBlank_feed : Whitespace.isBlank '\n' = true := by decide

theorem allWhite_number {characters : List Char} (line column offset : Nat)
    (white : ∀ character ∈ characters, Whitespace.isBlank character = true) :
    AllWhite (Cell.number line column offset characters) := by
  fun_induction Cell.number line column offset characters with
  | case1 =>
      intro cell mem
      cases mem
  | case2 line column offset rest ih =>
      refine allWhite_cons.2 ⟨isBlank_feed, ih ?_⟩
      intro character mem
      exact white character (List.mem_cons_of_mem _ (List.mem_cons_of_mem _ mem))
  | case3 line column offset character rest _ _ ih =>
      exact allWhite_cons.2
        ⟨isBlank_feed, ih fun character mem => white character (List.mem_cons_of_mem _ mem)⟩
  | case4 line column offset character rest _ _ _ ih =>
      exact allWhite_cons.2 ⟨white _ List.mem_cons_self,
        ih fun character mem => white character (List.mem_cons_of_mem _ mem)⟩
  | case5 line column offset character rest _ _ _ ih =>
      exact allWhite_cons.2 ⟨white _ List.mem_cons_self,
        ih fun character mem => white character (List.mem_cons_of_mem _ mem)⟩

/-! ### Tokens -/

theorem plain_suffix {flow : Bool} {indent : Int} {text : List Char} {gap : Gap}
    {cells : List Cell} {read : Scalar.Reading}
    (found : Scalar.plain flow indent text gap cells = some read) : read.rest <:+ cells := by
  induction cells generalizing text gap with
  | nil =>
      obtain rfl := Option.some.inj found
      exact List.suffix_refl _
  | cons cell cells ih =>
      have later : ∀ {text gap}, Scalar.plain flow indent text gap cells = some read →
          read.rest <:+ cell :: cells := fun more => (ih more).trans (List.suffix_cons _ _)
      unfold Scalar.plain at found
      grind [List.suffix_refl]

namespace Stream

theorem skip_suffix (flow comment keyAllowed : Bool) (cells : List Cell) :
    (skip flow comment keyAllowed cells).2 <:+ cells := by
  induction cells generalizing comment keyAllowed with
  | nil => exact List.suffix_refl _
  | cons cell cells ih =>
      have later : ∀ comment keyAllowed,
          (skip flow comment keyAllowed cells).2 <:+ cell :: cells :=
        fun comment keyAllowed => (ih comment keyAllowed).trans (List.suffix_cons _ _)
      unfold skip
      grind [List.suffix_refl]

end Stream

/-- A token that is a scalar. -/
def Token.IsScalar (token : Token) : Prop := ∃ style text, token = .scalar style text

namespace Stream

/-- Reading has come across nothing but scalars, and white space is still to be read. -/
structure Quiet (stream : Stream) : Prop where
  rest : AllWhite stream.rest
  tokens : ∀ token ∈ stream.tokens, token.IsScalar
  outer : stream.outer = []
  flow : stream.flow = []

variable {stream next : Stream}

theorem Quiet.setCandidate (quiet : Quiet stream) (candidate : Option Candidate) :
    Quiet (stream.setCandidate candidate) := by
  rw [Stream.setCandidate, quiet.flow]
  exact ⟨quiet.rest, quiet.tokens, quiet.outer, rfl⟩

theorem Quiet.dropCandidate? (quiet : Quiet stream)
    (dropped : stream.dropCandidate? = some next) : Quiet next := by
  unfold Stream.dropCandidate? at dropped
  split at dropped
  · split at dropped
    · cases dropped
    · obtain rfl := Option.some.inj dropped
      exact quiet.setCandidate none
  · obtain rfl := Option.some.inj dropped
    exact quiet

theorem Quiet.saveCandidate? (quiet : Quiet stream)
    (saved : stream.saveCandidate? = some next) : Quiet next := by
  unfold Stream.saveCandidate? at saved
  split at saved
  · obtain rfl := Option.some.inj saved
    exact quiet
  · split at saved
    · obtain ⟨dropped, found, rfl⟩ := Option.map_eq_some_iff.1 saved
      exact (quiet.dropCandidate? found).setCandidate _
    · obtain rfl := Option.some.inj saved
      exact quiet

theorem Quiet.dropStale? (quiet : Quiet stream) (dropped : stream.dropStale? = some next) :
    Quiet next ∧ next.rest = stream.rest := by
  rw [Stream.dropStale?, quiet.flow] at dropped
  obtain ⟨block, -, kept⟩ := Option.bind_eq_some_iff.1 dropped
  obtain rfl := Option.some.inj kept
  exact ⟨⟨quiet.rest, quiet.tokens, quiet.outer, rfl⟩, rfl⟩

theorem Quiet.unindent (quiet : Quiet stream) (column : Int) : stream.unindent column = stream := by
  obtain ⟨rest, tokens, indent, outer, flow, block, keyAllowed⟩ := stream
  obtain rfl : outer = [] := quiet.outer
  obtain rfl : flow = [] := quiet.flow
  rfl

theorem Quiet.plainScalar? (quiet : Quiet stream) (read : stream.plainScalar? = some next) :
    Quiet next := by
  obtain ⟨saved, save, rest⟩ := Option.bind_eq_some_iff.1 read
  obtain ⟨scalar, plain, done⟩ := Option.bind_eq_some_iff.1 rest
  obtain rfl := Option.some.inj done
  have kept := quiet.saveCandidate? save
  exact ⟨quiet.rest.of_suffix (plain_suffix plain),
    List.forall_mem_cons.2 ⟨⟨_, _, rfl⟩, kept.tokens⟩, kept.outer, kept.flow⟩

theorem Quiet.token? {cell : Cell} {rest : List Cell} (quiet : Quiet stream)
    (white : Whitespace.isBlank cell.character = true)
    (read : stream.token? cell rest = some next) : Quiet next := by
  have ne : ∀ other, Whitespace.isBlank other = false → cell.character ≠ other := by
    rintro other black rfl
    rw [white] at black
    cases black
  have unmarked : ∀ other, Whitespace.isBlank other = false →
      Cell.isIndicator other (cell :: rest) = false := by
    intro other black
    unfold Cell.isIndicator
    split
    · rename_i same
      obtain ⟨rfl, -⟩ := List.cons.inj same
      simp [ne other black]
    · rfl
  simp only [Stream.token?, unmarked '-' (by decide), unmarked '.' (by decide),
    ne '%' (by decide), ne '[' (by decide), ne '\x7b' (by decide), ne ']' (by decide),
    ne '\x7d' (by decide), ne ',' (by decide), ne '-' (by decide), ne '?' (by decide),
    ne ':' (by decide), ne '*' (by decide), ne '&' (by decide), ne '!' (by decide),
    ne '|' (by decide), ne '>' (by decide), ne '\'' (by decide), ne '"' (by decide),
    decide_false, Bool.and_false, Bool.false_and, if_false, Bool.false_eq_true] at read
  split at read
  · exact quiet.plainScalar? read
  · cases read

theorem Quiet.finish? {tokens : List Token} (quiet : Quiet stream)
    (finished : stream.finish? = some tokens) : ∀ token ∈ tokens, token.IsScalar := by
  rw [Stream.finish?, quiet.unindent] at finished
  obtain ⟨closed, dropped, rfl⟩ := Option.map_eq_some_iff.1 finished
  intro token mem
  exact (quiet.dropCandidate? dropped).tokens token (List.mem_reverse.1 mem)

theorem Quiet.tokens? {bound : Nat} {tokens : List Token} (quiet : Quiet stream)
    (read : Stream.tokens? bound stream = some tokens) : ∀ token ∈ tokens, token.IsScalar := by
  induction bound generalizing stream with
  | zero => cases read
  | succ bound ih =>
      unfold Stream.tokens? at read
      split at read
      rename_i keyAllowed ahead skipped
      have white : AllWhite ahead := by
        have suffix := skip_suffix stream.inFlow false stream.keyAllowed stream.rest
        rw [skipped] at suffix
        exact quiet.rest.of_suffix suffix
      have skippedTo : Quiet { stream with keyAllowed, rest := ahead } :=
        ⟨white, quiet.tokens, quiet.outer, quiet.flow⟩
      split at read
      · cases read
      · rename_i fresh stale
        obtain ⟨kept, same⟩ := skippedTo.dropStale? stale
        split at read
        · exact kept.finish? read
        · rename_i cell rest
          rw [kept.unindent] at read
          split at read
          · cases read
          · rename_i next found
            exact ih (kept.token? (allWhite_cons.1 white).1 found) read

end Stream

/-! ### Documents -/

theorem isScalar_of_isBlankText {text : String} {tokens : List Token}
    (white : Whitespace.isBlankText text = true) (read : Token.ofText? text = some tokens) :
    ∀ token ∈ tokens, token.IsScalar := by
  obtain ⟨cells, numbered, ran⟩ := Option.bind_eq_some_iff.1 read
  rw [Cell.ofText?] at numbered
  split at numbered
  · obtain rfl := Option.some.inj numbered
    have start : (Stream.start (Cell.number 0 0 0 text.toList)).Quiet :=
      ⟨allWhite_number 0 0 0 (List.all_eq_true.1 white), List.forall_mem_nil _, rfl, rfl⟩
    exact start.tokens? ran
  · cases numbered

/-- A scalar in front is the whole document. -/
theorem Document.ofTokens?_scalar (style : Style) (text : List Char) (tokens : List Token) :
    ofTokens? (.scalar style text :: tokens) = (do
      guard (tokens.all (· = .documentEnd))
      return ⟨some (.scalar none style (String.ofList text)), [], 1⟩) := rfl

/-- The document of white space, if it is one, has no collection for its root. -/
theorem Document.root_of_isBlankText {text : String} {document : Document}
    (white : Whitespace.isBlankText text = true) (read : ofText? text = some document)
    (tag : Option Tag) (members : List (Node × Node)) :
    document.root ≠ some (.mapping tag members) := by
  obtain ⟨tokens, scanned, composed⟩ := Option.bind_eq_some_iff.1 read
  have scalars := isScalar_of_isBlankText white scanned
  cases tokens with
  | nil =>
      obtain rfl := Option.some.inj composed
      simp
  | cons token tokens =>
      obtain ⟨style, content, rfl⟩ := scalars token List.mem_cons_self
      rw [ofTokens?_scalar] at composed
      obtain ⟨_, -, done⟩ := Option.bind_eq_some_iff.1 composed
      obtain rfl := Option.some.inj done
      simp

end ChainLaunchers.Yaml
