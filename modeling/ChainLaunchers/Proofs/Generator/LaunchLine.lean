/-
Module: ChainLaunchers.Proofs.Generator.LaunchLine
Purpose: What the usual rules make of a launch line, token by token: no occurrence of what they
  search for reaches from one token into the next, and none is left in the launcher.
Trusted boundary: none
Main exports:
  Rule.Settled, Rule.Delimits, Rule.StaysClosed, Rule.Finishes, Rule.Finishes.append,
  LaunchLine.Token, LaunchLine.text, LaunchLine.rewritten, LaunchLine.finishes_text,
  LaunchLine.launcher_of_tokens
-/
import ChainLaunchers.Proofs.Generator.Namesake

namespace ChainLaunchers

/-! ### Rules on a part of a line

A literal that holds the separator at its very end at most cannot go on beyond a separator.  So a
part of a line that ends with one is rewritten by itself, as long as no rule takes the separator
away and leaves something in front of it. -/

namespace Rule

/-- None of the rules finds its literal in the text. -/
def Settled (rules : List Rule) (text : Bytes) : Prop :=
  ∀ rule ∈ rules, ¬Utf8.ofString rule.pattern <:+: text

instance (rules : List Rule) (text : Bytes) : Decidable (Settled rules text) :=
  inferInstanceAs (Decidable (∀ rule ∈ rules, _))

/-- No literal of the rules goes on behind the separator. -/
def Delimits (separator : UInt8) (rules : List Rule) : Prop :=
  ∀ rule ∈ rules, separator ∉ (Utf8.ofString rule.pattern).dropLast

instance (separator : UInt8) (rules : List Rule) : Decidable (Delimits separator rules) :=
  inferInstanceAs (Decidable (∀ rule ∈ rules, _))

/-- The text is empty or ends with the separator. -/
def IsClosed (separator : UInt8) (text : Bytes) : Prop :=
  ∀ byte ∈ text.getLast?, byte = separator

instance (separator : UInt8) (text : Bytes) : Decidable (IsClosed separator text) :=
  inferInstanceAs (Decidable (∀ byte ∈ text.getLast?, _))

/-- The text is closed, and so is what each of the rules in turn makes of it. -/
def StaysClosed (separator : UInt8) : List Rule → Bytes → Prop
  | [], text => IsClosed separator text
  | rule :: rules, text =>
    IsClosed separator text ∧ StaysClosed separator rules (rule.apply text)

instance decidableStaysClosed (separator : UInt8) :
    ∀ rules text, Decidable (StaysClosed separator rules text)
  | [], text => inferInstanceAs (Decidable (IsClosed separator text))
  | rule :: rules, text =>
    have := decidableStaysClosed separator rules (rule.apply text)
    inferInstanceAs (Decidable (IsClosed separator text ∧ _))

/-- The rules make the result of the text, and then there is nothing left for them. -/
structure Finishes (rules : List Rule) (text result : Bytes) : Prop where
  made : applyAll rules text = result
  settled : Settled rules result

variable {separator : UInt8} {rules : List Rule}

/-- No occurrence of a literal reaches beyond a closed text. -/
theorem IsClosed.unstraddled {rule : Rule} {text : Bytes} (closed : IsClosed separator text)
    (delimited : separator ∉ (Utf8.ofString rule.pattern).dropLast) (more : Bytes) :
    Literal.Unstraddled (Utf8.ofString rule.pattern) text more := by
  apply Literal.unstraddled_of_getLast?
  intro byte last
  rw [closed byte last]
  exact delimited

theorem Settled.of_infix {text part : Bytes} (settled : Settled rules text)
    (inside : part <:+: text) : Settled rules part := by
  intro rule mem occurs
  exact settled rule mem (occurs.trans inside)

theorem Settled.append {first second : Bytes} (delimits : Delimits separator rules)
    (closed : IsClosed separator first) (settled : Settled rules first)
    (settled' : Settled rules second) : Settled rules (first ++ second) := by
  intro rule mem
  rw [(closed.unstraddled (delimits rule mem) second).infix_append_iff, not_or]
  exact ⟨settled rule mem, settled' rule mem⟩

theorem Settled.finishes {text : Bytes} (settled : Settled rules text) :
    Finishes rules text text := by
  have unchanged : applyAll rules text = text := by
    apply applyAll_induction (· = text) rfl
    rintro rule mem _ rfl
    exact Literal.replaceAll_of_absent (settled rule mem) _
  exact ⟨unchanged, settled⟩

theorem Settled.staysClosed {text : Bytes} (settled : Settled rules text)
    (closed : IsClosed separator text) : StaysClosed separator rules text := by
  induction rules with
  | nil => exact closed
  | cons rule rules ih =>
      obtain ⟨absent, others⟩ := List.forall_mem_cons.1 settled
      refine ⟨closed, ?_⟩
      rw [apply, Literal.replaceAll_of_absent absent]
      exact ih others

theorem StaysClosed.isClosed_applyAll {text : Bytes} (closed : StaysClosed separator rules text) :
    IsClosed separator (applyAll rules text) := by
  induction rules generalizing text with
  | nil => exact closed
  | cons rule rules ih => exact ih closed.2

/-- A part of a line that stays closed is rewritten by itself. -/
theorem StaysClosed.applyAll_append (delimits : Delimits separator rules) {first : Bytes}
    (closed : StaysClosed separator rules first) (second : Bytes) :
    applyAll rules (first ++ second) = applyAll rules first ++ applyAll rules second := by
  induction rules generalizing first second with
  | nil => rfl
  | cons rule rules ih =>
      obtain ⟨delimited, others⟩ := List.forall_mem_cons.1 delimits
      obtain ⟨here, later⟩ := closed
      rw [applyAll_cons, applyAll_cons, applyAll_cons, apply, apply, apply,
        Literal.replaceAll_append_of_unstraddled (here.unstraddled delimited second)]
      exact ih others later _

/-- What the rules make of a part that stays closed has nothing left for them at its border. -/
theorem Finishes.append {first second result result' : Bytes}
    (delimits : Delimits separator rules) (closed : StaysClosed separator rules first)
    (finishes : Finishes rules first result) (finishes' : Finishes rules second result') :
    Finishes rules (first ++ second) (result ++ result') := by
  constructor
  · rw [closed.applyAll_append delimits, finishes.made, finishes'.made]
  · have border := closed.isClosed_applyAll
    rw [finishes.made] at border
    exact finishes.settled.append delimits border finishes'.settled

end Rule

/-! ### Parts of a line -/

theorem Bytes.infix_joinWith (separator : UInt8) {piece : Bytes} {pieces : List Bytes}
    (mem : piece ∈ pieces) : piece <:+: joinWith separator pieces := by
  induction pieces with
  | nil => cases mem
  | cons first others ih =>
      cases others with
      | nil =>
          obtain rfl := List.mem_singleton.1 mem
          exact List.infix_rfl
      | cons next more =>
          rcases List.mem_cons.1 mem with rfl | later
          · exact (List.prefix_append piece _).isInfix
          · apply (ih later).trans
            exact ((List.suffix_cons separator _).trans (List.suffix_append first _)).isInfix

/-- A line with a name on some part of it has a name. -/
theorem Marker.name?_ne_none_of_infix {marker : Marker} {part line : Bytes}
    (inside : part <:+: line) (named : marker.name? part ≠ none) : marker.name? line ≠ none := by
  obtain ⟨front, back, rfl⟩ := inside
  intro nothing
  apply named
  rw [name?_eq_none_iff]
  rintro position ⟨before, byte, after, rfl, rfl, word⟩
  apply name?_eq_none_iff.1 nothing (front.length + before.length)
  exact ⟨front ++ before, byte, after ++ back, by simp, by simp, word⟩

theorem Line.trim_infix (line : Bytes) : trim line <:+: line :=
  (List.drop_suffix _ _).isInfix.trans (List.take_prefix _ _).isInfix

namespace LaunchLine

/-! ### Tokens -/

/-- The space between two tokens. -/
def space : UInt8 := 32

/-- What sends a command of a shell into the background. -/
def ampersand : UInt8 := 38

/-- What a variable of a shell begins with. -/
def dollar : UInt8 := 36

/-- A token in which the usual rules have nothing to search for. -/
structure IsPlain (text : Bytes) : Prop where
  nonempty : text ≠ []
  visible : ∀ byte ∈ text, Bytes.isBlank byte = false
  noAmpersand : ampersand ∉ text
  noDollar : dollar ∉ text
  noDaemon : ¬Utf8.ofString "./komodod" <:+: text

/-- The tokens of a launch line. -/
inductive Token where
  /-- The command that starts the daemon. -/
  | daemon
  /-- The sign that sends it into the background. -/
  | background
  /-- The first argument of the script that the line stands in. -/
  | argument
  /-- The public key, taken from a variable. -/
  | key
  /-- Anything else that holds nothing of these. -/
  | plain (text : Bytes) (isPlain : IsPlain text)

namespace Token

/-- How the token is written. -/
def bytes : Token → Bytes
  | daemon => Utf8.ofString "./komodod"
  | background => Utf8.ofString "&"
  | argument => Utf8.ofString "$1"
  | key => Utf8.ofString "-pubkey=$pubkey"
  | plain text _ => text

/-- What becomes of the token and the space behind it. -/
def inner : Token → Bytes
  | daemon => Utf8.ofString "start ..\\KomodoOceanGUI.exe "
  | background => [space]
  | argument => [space]
  | key => []
  | plain text _ => text ++ [space]

/-- What becomes of the token at the end of a line. -/
def last : Token → Bytes
  | background => []
  | argument => []
  | token => token.bytes

end Token

/-- The line of the tokens, with a space between one and the next. -/
def text (tokens : List Token) : Bytes := Bytes.joinWith space (tokens.map Token.bytes)

/-- What becomes of the line, token by token. -/
def rewritten : List Token → Bytes
  | [] => []
  | [token] => token.last
  | token :: next :: more => token.inner ++ rewritten (next :: more)

/-! ### A single token -/

/-- The only space that the usual rules search for is the last byte of a literal. -/
theorem delimits_standard : Rule.Delimits space Rule.standard := by decide

namespace IsPlain

variable {text : Bytes} (isPlain : IsPlain text)

include isPlain

/-- A plain token and the space behind it hold nothing that the usual rules search for. -/
theorem settled : Rule.Settled Rule.standard (text ++ [space]) := by
  have noDaemon : ¬Utf8.ofString "./komodod" <:+: text ++ [space] := by
    have apart : Literal.Apart (Utf8.ofString "./komodod") [space] := by
      simp only [Literal.Apart, List.forall_mem_singleton]
      decide
    rw [(apart.unstraddled text).infix_append_iff, not_or]
    exact ⟨isPlain.noDaemon, by decide⟩
  have noAmpersand : ampersand ∉ text ++ [space] := by
    rw [List.mem_append, not_or]
    exact ⟨isPlain.noAmpersand, by decide⟩
  have noDollar : dollar ∉ text ++ [space] := by
    rw [List.mem_append, not_or]
    exact ⟨isPlain.noDollar, by decide⟩
  intro rule mem occurs
  simp only [Rule.standard, List.mem_cons, List.not_mem_nil, or_false] at mem
  -- The first literal holds the whole command, and each of the others one of the two bytes.
  rcases mem with rfl | rfl | rfl | rfl
  · have whole : Utf8.ofString "./komodod" <:+: Utf8.ofString "./komodod " := by decide
    exact noDaemon (whole.trans occurs)
  · exact noAmpersand (occurs.subset (by decide))
  · exact noDollar (occurs.subset (by decide))
  · exact noDollar (occurs.subset (by decide))

theorem staysClosed : Rule.StaysClosed space Rule.standard (text ++ [space]) := by
  apply isPlain.settled.staysClosed
  intro byte last
  rw [List.getLast?_concat] at last
  exact (Option.some.inj last).symm

end IsPlain

namespace Token

theorem staysClosed (token : Token) :
    Rule.StaysClosed space Rule.standard (token.bytes ++ [space]) := by
  cases token with
  | plain text isPlain => exact isPlain.staysClosed
  | _ => decide +kernel

theorem finishes_inner (token : Token) :
    Rule.Finishes Rule.standard (token.bytes ++ [space]) token.inner := by
  cases token with
  | plain text isPlain => exact isPlain.settled.finishes
  | _ => exact ⟨by decide, by decide⟩

theorem finishes_last (token : Token) : Rule.Finishes Rule.standard token.bytes token.last := by
  cases token with
  | plain text isPlain =>
      exact (isPlain.settled.of_infix (List.prefix_append text _).isInfix).finishes
  | _ => exact ⟨by decide, by decide⟩

end Token

/-! ### The whole line -/

/-- The usual rules rewrite every token by itself. -/
theorem finishes_text (tokens : List Token) :
    Rule.Finishes Rule.standard (text tokens) (rewritten tokens) := by
  induction tokens with
  | nil => exact ⟨by decide, by decide⟩
  | cons token others ih =>
      cases others with
      | nil => exact token.finishes_last
      | cons next more =>
          have whole : text (token :: next :: more) =
              (token.bytes ++ [space]) ++ text (next :: more) := by simp [text, Bytes.joinWith]
          rw [whole, rewritten]
          exact token.finishes_inner.append delimits_standard token.staysClosed ih

/-- The launcher of a line of tokens, one of which names the chain, is what becomes of the tokens
one by one, without the blanks at the ends.  Nothing that the usual rules search for occurs in
it. -/
theorem launcher_of_tokens {tokens : List Token}
    (named : ∃ token ∈ tokens, Marker.standard.name? token.bytes ≠ none) {ending : Bytes}
    (isEnding : Line.IsEnding ending) :
    ∃ launcher, Generator.standard.launcher? (text tokens ++ ending) = some launcher ∧
      launcher.content = Line.trim (rewritten tokens) ∧
      Rule.Settled Rule.standard launcher.content := by
  obtain ⟨token, mem, named⟩ := named
  have inside : token.bytes <:+: text tokens :=
    Bytes.infix_joinWith space (List.mem_map_of_mem mem)
  obtain ⟨chain, carries⟩ :=
    Option.ne_none_iff_exists'.1 (Marker.name?_ne_none_of_infix inside named)
  have searches : Generator.standard.SearchesInsideLines := by decide
  have finishes := finishes_text tokens
  have found : Generator.standard.launcher? (text tokens ++ ending) = some
      { chain
        fileName := Generator.standard.fileName chain
        content := Line.trim (rewritten tokens) } := by
    rw [Generator.launcher?_append searches isEnding, ← finishes.made]
    exact Generator.launcher?_of_name? carries
  exact ⟨_, found, rfl, finishes.settled.of_infix (Line.trim_infix _)⟩

/-- The usual line of a launch script, with a token of every kind. -/
theorem launcher_of_usual_tokens :
    ∃ launcher, Generator.standard.launcher?
        (Utf8.ofString "./komodod -pubkey=$pubkey -ac_name=BEER $1 &\r\n") = some launcher ∧
      launcher.content = Utf8.ofString "start ..\\KomodoOceanGUI.exe -ac_name=BEER" := by
  have isPlain : IsPlain (Utf8.ofString "-ac_name=BEER") := by
    constructor <;> decide +kernel
  have named : Marker.standard.name? (Utf8.ofString "-ac_name=BEER") ≠ none := by
    decide +kernel
  obtain ⟨launcher, found, content, -⟩ :=
    @launcher_of_tokens [.daemon, .key, .plain _ isPlain, .argument, .background]
      ⟨.plain _ isPlain, by simp, named⟩ _ Line.isEnding_return_feed
  refine ⟨launcher, found, content.trans ?_⟩
  change Line.trim (Utf8.ofString "start ..\\KomodoOceanGUI.exe -ac_name=BEER  ") = _
  decide

end LaunchLine

end ChainLaunchers
