/-
Module: ChainLaunchers.Proofs.Text.Json
Purpose: What a JSON text says, by a grammar in which no text has two values.
Trusted boundary: the grammar, which restates what of JSON the reports need: numbers are natural,
  and an escaped code is that of a character by itself.
Main exports:
  Json, Json.tokens, Json.Lexes, Json.Spells, Json.Spells.unique, Json.spells_inJson
-/
import ChainLaunchers.Text.Quoted
import Mathlib.Data.List.TakeWhile

namespace ChainLaunchers

/-- A JSON value, with the members of an object in their order. -/
inductive Json where
  | number (value : Nat)
  | truth (value : Bool)
  | text (value : String)
  | list (items : List Json)
  | object (members : List (String × Json))

namespace Json

/-! ### Tokens -/

/-- What a JSON text consists of, apart from white space. -/
inductive Token where
  | mark (character : Char)
  | number (value : Nat)
  | truth (value : Bool)
  | text (value : String)

/-- Parts with a comma between any two of them. -/
def separated (parts : List (List Token)) : List Token :=
  [Token.mark ','].intercalate parts

mutual

/-- The tokens of a value. -/
def tokens : Json → List Token
  | number value => [.number value]
  | truth value => [.truth value]
  | text value => [.text value]
  | list items => .mark '[' :: separated (itemTokens items) ++ [.mark ']']
  | object members => .mark '\x7b' :: separated (memberTokens members) ++ [.mark '\x7d']

/-- The tokens of every item of a list. -/
def itemTokens : List Json → List (List Token)
  | [] => []
  | item :: later => item.tokens :: itemTokens later

/-- The tokens of every member of an object. -/
def memberTokens : List (String × Json) → List (List Token)
  | [] => []
  | (name, value) :: later => (.text name :: .mark ':' :: value.tokens) :: memberTokens later

end

/-! ### Characters -/

/-- The characters of which white space consists. -/
def blanks : List Char := [' ', '\n', '\r', '\t']

/-- The characters that stand for themselves as tokens. -/
def marks : List Char := ['[', ']', '\x7b', '\x7d', ',', ':']

/-- What a letter behind a backslash stands for. -/
def escapes : List (Char × Char) :=
  [('"', '"'), ('\\', '\\'), ('/', '/'), ('b', '\x08'), ('f', '\x0c'), ('n', '\n'), ('r', '\r'),
    ('t', '\t')]

/-- The value of a hexadecimal digit, in small or capital letters. -/
def hexDigit? (digit : Char) : Option Nat :=
  ['0', '1', '2', '3', '4', '5', '6', '7', '8', '9', 'a', 'b', 'c', 'd', 'e', 'f'].idxOf?
    digit.toLower

/-- The code that hexadecimal digits spell. -/
def code? (digits : List Char) : Option Nat :=
  digits.foldlM (fun code digit => (hexDigit? digit).map (16 * code + ·)) 0

/-- What the characters of a string say up to its closing quote, and what stands behind it. -/
inductive Quotes : List Char → List Char → List Char → Prop where
  | closed {rest : List Char} : Quotes ('"' :: rest) [] rest
  | plain {character : Char} {more text rest : List Char} (inside : character ≠ '"')
      (unescaped : character ≠ '\\') (shown : 32 ≤ character.toNat)
      (later : Quotes more text rest) : Quotes (character :: more) (character :: text) rest
  | escaped {letter character : Char} {more text rest : List Char}
      (known : escapes.lookup letter = some character) (later : Quotes more text rest) :
      Quotes ('\\' :: letter :: more) (character :: text) rest
  | coded {first second third fourth : Char} {code : Nat} {more text rest : List Char}
      (spelled : code? [first, second, third, fourth] = some code) (valid : code.isValidChar)
      (later : Quotes more text rest) :
      Quotes ('\\' :: 'u' :: first :: second :: third :: fourth :: more) (Char.ofNat code :: text)
        rest

/-- The token that a text begins with, and what stands behind it. -/
inductive Begins : List Char → Token → List Char → Prop where
  | mark {character : Char} {rest : List Char} (known : character ∈ marks) :
      Begins (character :: rest) (.mark character) rest
  | number {digit : Char} {more : List Char} {value : Nat} (numeral : digit.isDigit = true)
      (shown : (digit :: more).takeWhile Char.isDigit = Nat.toDigits 10 value) :
      Begins (digit :: more) (.number value) ((digit :: more).dropWhile Char.isDigit)
  | yes {rest : List Char} : Begins ('t' :: 'r' :: 'u' :: 'e' :: rest) (.truth true) rest
  | no {rest : List Char} : Begins ('f' :: 'a' :: 'l' :: 's' :: 'e' :: rest) (.truth false) rest
  | text {more text rest : List Char} (quotes : Quotes more text rest) :
      Begins ('"' :: more) (.text (String.ofList text)) rest

/-- A text consists of these tokens, with any white space around them. -/
inductive Lexes : List Char → List Token → Prop where
  | done : Lexes [] []
  | blank {character : Char} {rest : List Char} {tokens : List Token}
      (white : character ∈ blanks) (later : Lexes rest tokens) : Lexes (character :: rest) tokens
  | token {text rest : List Char} {token : Token} {tokens : List Token}
      (front : Begins text token rest) (later : Lexes rest tokens) : Lexes text (token :: tokens)

/-- A JSON text says this. -/
def Spells (text : String) (value : Json) : Prop := Lexes text.toList value.tokens

/-! ### No text has two values -/

section

variable {text text' rest rest' : List Char} {token token' : Token} {tokens tokens' : List Token}

theorem Quotes.unique {more : List Char} (quotes : Quotes more text rest)
    (quotes' : Quotes more text' rest') : text = text' ∧ rest = rest' := by
  induction quotes generalizing text' with
  | closed =>
      cases quotes' with
      | closed => exact ⟨rfl, rfl⟩
      | plain inside => exact absurd rfl inside
  | plain inside unescaped shown later ih =>
      cases quotes' with
      | closed => exact absurd rfl inside
      | plain inside' unescaped' shown' later' =>
          obtain ⟨rfl, rfl⟩ := ih later'
          exact ⟨rfl, rfl⟩
      | escaped => exact absurd rfl unescaped
      | coded => exact absurd rfl unescaped
  | escaped known later ih =>
      cases quotes' with
      | plain inside unescaped => exact absurd rfl unescaped
      | escaped known' later' =>
          obtain ⟨rfl, rfl⟩ := ih later'
          rw [Option.some.inj (known.symm.trans known')]
          exact ⟨rfl, rfl⟩
      | coded => cases known
  | coded spelled valid later ih =>
      cases quotes' with
      | plain inside unescaped => exact absurd rfl unescaped
      | escaped known => cases known
      | coded spelled' valid' later' =>
          obtain ⟨rfl, rfl⟩ := ih later'
          rw [Option.some.inj (spelled.symm.trans spelled')]
          exact ⟨rfl, rfl⟩

theorem isDigit_of_mem_marks : ∀ character ∈ marks, character.isDigit = false := by
  simp [marks, Char.isDigit]

theorem Begins.unique (begins : Begins text token rest) (begins' : Begins text token' rest') :
    token = token' ∧ rest = rest' := by
  cases begins with
  | mark known =>
      cases begins' with
      | mark => exact ⟨rfl, rfl⟩
      | number numeral => exact absurd numeral (by simp [isDigit_of_mem_marks _ known])
      | yes => exact absurd known (by decide)
      | no => exact absurd known (by decide)
      | text => exact absurd known (by decide)
  | number numeral shown =>
      cases begins' with
      | mark known => exact absurd numeral (by simp [isDigit_of_mem_marks _ known])
      | number numeral' shown' =>
          have same := congrArg (Nat.ofDigitChars 10 · 0) (shown.symm.trans shown')
          simp only [Nat.ofDigitChars_ten_toDigits] at same
          rw [same]
          exact ⟨rfl, rfl⟩
      | yes => cases numeral
      | no => cases numeral
      | text => cases numeral
  | yes =>
      cases begins' with
      | mark known => exact absurd known (by decide)
      | number numeral => cases numeral
      | yes => exact ⟨rfl, rfl⟩
  | no =>
      cases begins' with
      | mark known => exact absurd known (by decide)
      | number numeral => cases numeral
      | no => exact ⟨rfl, rfl⟩
  | text quotes =>
      cases begins' with
      | mark known => exact absurd known (by decide)
      | number numeral => cases numeral
      | text quotes' =>
          obtain ⟨rfl, rfl⟩ := quotes.unique quotes'
          exact ⟨rfl, rfl⟩

/-- No token begins with white space. -/
theorem Begins.not_blank {character : Char} {more : List Char}
    (begins : Begins (character :: more) token rest) : character ∉ blanks := by
  intro white
  have plain : ∀ character ∈ blanks, character ∉ marks ∧ character.isDigit = false := by
    simp [blanks, marks, Char.isDigit]
  cases begins with
  | mark known => exact (plain _ white).1 known
  | number numeral => exact absurd numeral (by simp [(plain _ white).2])
  | yes => exact absurd white (by decide)
  | no => exact absurd white (by decide)
  | text => exact absurd white (by decide)

theorem Lexes.unique (lexes : Lexes text tokens) (lexes' : Lexes text tokens') :
    tokens = tokens' := by
  induction lexes generalizing tokens' with
  | done =>
      cases lexes' with
      | done => rfl
      | token front => cases front
  | blank white later ih =>
      cases lexes' with
      | blank white' later' => exact ih later'
      | token front => exact absurd white front.not_blank
  | token front later ih =>
      cases lexes' with
      | done => cases front
      | blank white => exact absurd white front.not_blank
      | token front' later' =>
          obtain ⟨rfl, rfl⟩ := front.unique front'
          rw [ih later']

/-! The tokens of a value end by themselves, whatever stands behind them.  For the items of a list
and the members of an object this is shown with a comma in front of each of them. -/

/-- Parts of which none begins with the given token. -/
def NoneBegins (closing : Token) (parts : List (List Token)) : Prop :=
  ∀ part ∈ parts, ∃ first more, first ≠ closing ∧ part = first :: more

theorem separated_cons (part : List Token) (later : List (List Token)) :
    separated (part :: later) = part ++ later.flatMap (.mark ',' :: ·) := by
  induction later generalizing part with
  | nil => simp [separated]
  | cons next later ih =>
      have one : separated (part :: next :: later) =
          part ++ .mark ',' :: separated (next :: later) := by
        rw [separated, List.intercalate_cons_cons, List.append_assoc]
        rfl
      rw [one, ih, List.flatMap_cons]
      rfl

/-- Parts that are separated in the same way are the same with a comma in front of each. -/
theorem NoneBegins.flatMap_eq {closing : Token} {parts parts' : List (List Token)}
    {rest rest' : List Token} (others : NoneBegins closing parts)
    (others' : NoneBegins closing parts')
    (same : separated parts ++ closing :: rest = separated parts' ++ closing :: rest') :
    parts.flatMap (.mark ',' :: ·) ++ closing :: rest =
      parts'.flatMap (.mark ',' :: ·) ++ closing :: rest' := by
  cases parts with
  | nil =>
      cases parts' with
      | nil => exact same
      | cons part' later' =>
          obtain ⟨first, more, other, rfl⟩ := others' part' List.mem_cons_self
          rw [separated_cons] at same
          exact absurd (List.cons.inj same).1.symm other
  | cons part later =>
      cases parts' with
      | nil =>
          obtain ⟨first, more, other, rfl⟩ := others part List.mem_cons_self
          rw [separated_cons] at same
          exact absurd (List.cons.inj same).1 other
      | cons part' later' =>
          rw [separated_cons, separated_cons] at same
          simpa using same

theorem noneBegins_itemTokens (items : List Json) : NoneBegins (.mark ']') (itemTokens items) := by
  induction items with
  | nil => exact nofun
  | cons item later ih =>
      refine List.forall_mem_cons.2 ⟨?_, ih⟩
      cases item <;> exact ⟨_, _, by simp, rfl⟩

theorem noneBegins_memberTokens (members : List (String × Json)) :
    NoneBegins (.mark '\x7d') (memberTokens members) := by
  induction members with
  | nil => exact nofun
  | cons member later ih => exact List.forall_mem_cons.2 ⟨⟨.text member.1, _, nofun, rfl⟩, ih⟩

mutual

/-- The tokens in front are those of one value only. -/
theorem eq_of_tokens_append : ∀ {value other : Json} {rest rest' : List Token},
    value.tokens ++ rest = other.tokens ++ rest' → value = other ∧ rest = rest'
  | number value, other, rest, rest', same => by
      cases other <;> simp_all [tokens]
  | truth value, other, rest, rest', same => by
      cases other <;> simp_all [tokens]
  | text value, other, rest, rest', same => by
      cases other <;> simp_all [tokens]
  | list items, other, rest, rest', same => by
      cases other with
      | list others =>
          obtain ⟨rfl, ends⟩ := eq_of_itemTokens_append
            ((noneBegins_itemTokens items).flatMap_eq (noneBegins_itemTokens others)
              (by simpa [tokens] using same))
          exact ⟨rfl, ends⟩
      | _ => simp [tokens] at same
  | object members, other, rest, rest', same => by
      cases other with
      | object others =>
          obtain ⟨rfl, ends⟩ := eq_of_memberTokens_append
            ((noneBegins_memberTokens members).flatMap_eq (noneBegins_memberTokens others)
              (by simpa [tokens] using same))
          exact ⟨rfl, ends⟩
      | _ => simp [tokens] at same

theorem eq_of_itemTokens_append : ∀ {items others : List Json} {rest rest' : List Token},
    (itemTokens items).flatMap (.mark ',' :: ·) ++ .mark ']' :: rest =
        (itemTokens others).flatMap (.mark ',' :: ·) ++ .mark ']' :: rest' →
      items = others ∧ rest = rest'
  | [], others, rest, rest', same => by
      cases others <;> simp_all [itemTokens]
  | item :: later, others, rest, rest', same => by
      cases others with
      | nil => simp [itemTokens] at same
      | cons other others =>
          simp only [itemTokens, List.flatMap_cons, List.cons_append, List.append_assoc,
            List.cons.injEq, true_and] at same
          obtain ⟨rfl, tail⟩ := eq_of_tokens_append same
          obtain ⟨rfl, ends⟩ := eq_of_itemTokens_append tail
          exact ⟨rfl, ends⟩

theorem eq_of_memberTokens_append : ∀ {members others : List (String × Json)}
    {rest rest' : List Token},
    (memberTokens members).flatMap (.mark ',' :: ·) ++ .mark '\x7d' :: rest =
        (memberTokens others).flatMap (.mark ',' :: ·) ++ .mark '\x7d' :: rest' →
      members = others ∧ rest = rest'
  | [], others, rest, rest', same => by
      cases others <;> simp_all [memberTokens]
  | (name, value) :: later, others, rest, rest', same => by
      cases others with
      | nil => simp [memberTokens] at same
      | cons other others =>
          simp only [memberTokens, List.flatMap_cons, List.cons_append, List.append_assoc,
            List.cons.injEq, Token.text.injEq, true_and] at same
          obtain ⟨named, same⟩ := same
          obtain ⟨worth, tail⟩ := eq_of_tokens_append same
          obtain ⟨rfl, ends⟩ := eq_of_memberTokens_append tail
          exact ⟨by rw [named, worth], ends⟩

end

/-- A text says one thing at most. -/
theorem Spells.unique {text : String} {value other : Json} (spells : Spells text value)
    (spells' : Spells text other) : value = other :=
  (eq_of_tokens_append (congrArg (· ++ []) (Lexes.unique spells spells'))).1

end

/-! ### Texts behind one another -/

section

variable {text behind rest : List Char} {token : Token} {tokens later : List Token}

theorem Quotes.append {more : List Char} (quotes : Quotes more text behind) :
    Quotes (more ++ rest) text (behind ++ rest) := by
  induction quotes with
  | closed => exact .closed
  | plain inside unescaped shown later ih => exact .plain inside unescaped shown ih
  | escaped known later ih => exact .escaped known ih
  | coded spelled valid later ih => exact .coded spelled valid ih

/-- The digits that a text begins with are the same with another text behind it. -/
theorem digits_append (apart : ∀ character ∈ rest.head?, character.isDigit = false) :
    (text ++ rest).takeWhile Char.isDigit = text.takeWhile Char.isDigit ∧
      (text ++ rest).dropWhile Char.isDigit = text.dropWhile Char.isDigit ++ rest := by
  induction text with
  | nil =>
      cases rest with
      | nil => exact ⟨rfl, rfl⟩
      | cons character rest => simp [apart character rfl]
  | cons character text ih =>
      by_cases digit : character.isDigit
      · simp [digit, ih]
      · simp [digit]

/-- A token ends where the text ended, unless it is a number and digits follow. -/
theorem Begins.append (begins : Begins text token behind)
    (apart : ∀ character ∈ rest.head?, character.isDigit = false) :
    Begins (text ++ rest) token (behind ++ rest) := by
  cases begins with
  | mark known => exact .mark known
  | number numeral shown =>
      obtain ⟨front, left⟩ := digits_append apart
      rw [← left]
      exact .number numeral (front.trans shown)
  | yes => exact .yes
  | no => exact .no
  | text quotes => exact .text quotes.append

theorem Lexes.append (front : Lexes text tokens) (back : Lexes rest later)
    (apart : ∀ character ∈ rest.head?, character.isDigit = false) :
    Lexes (text ++ rest) (tokens ++ later) := by
  induction front with
  | done => exact back
  | blank white _ ih => exact .blank white ih
  | token front _ ih => exact .token (front.append apart) ih

end

/-- A line feed behind a text says nothing more. -/
theorem Spells.append_feed {text : String} {value : Json} (spells : Spells text value) :
    Spells (text ++ "\n") value := by
  have feed : Lexes ['\n'] [] := .blank (by decide) .done
  have longer := Lexes.append spells feed (by simp)
  simpa [Spells] using longer

/-! ### Spelling -/

theorem code?_hexFour : ∀ code < 32,
    (Quoted.hexFour code).length = 4 ∧ code? (Quoted.hexFour code) = some code := by decide

theorem quotes_jsonCharacter (character : Char) {more text rest : List Char}
    (quotes : Quotes more text rest) :
    Quotes (Quoted.jsonCharacter character ++ more) (character :: text) rest := by
  unfold Quoted.jsonCharacter
  split
  · next same => exact .escaped (by rw [same]; rfl) quotes
  split
  · next same => exact .escaped (by rw [same]; rfl) quotes
  split
  · next same => exact .escaped (by rw [← Char.ofNat_toNat character, same]; rfl) quotes
  split
  · next same => exact .escaped (by rw [← Char.ofNat_toNat character, same]; rfl) quotes
  split
  · next same => exact .escaped (by rw [same]; rfl) quotes
  split
  · next same => exact .escaped (by rw [same]; rfl) quotes
  split
  · next same => exact .escaped (by rw [same]; rfl) quotes
  split
  · next control =>
      obtain ⟨four, spelled⟩ := code?_hexFour character.toNat control
      match Quoted.hexFour character.toNat, four, spelled with
      | [first, second, third, fourth], _, spelled =>
          have coded := Quotes.coded spelled character.valid quotes
          rwa [Char.ofNat_toNat] at coded
  · next inside unescaped _ _ _ _ _ shown =>
      exact .plain inside unescaped (Nat.le_of_not_lt shown) quotes

theorem quotes_text (text : List Char) (rest : List Char) :
    Quotes (text.flatMap Quoted.jsonCharacter ++ '"' :: rest) text rest := by
  induction text with
  | nil => exact .closed
  | cons character later ih =>
      rw [List.flatMap_cons, List.append_assoc]
      exact quotes_jsonCharacter character ih

theorem spells_inJson (text : String) : Spells (Quoted.inJson text) (.text text) := by
  have begins := Begins.text (quotes_text text.toList [])
  rw [String.ofList_toList] at begins
  rw [Spells, Quoted.inJson, String.toList_ofList]
  exact .token begins .done

theorem spells_toString (value : Nat) : Spells (toString value) (.number value) := by
  have digits : ∀ digit ∈ Nat.toDigits 10 value, digit.isDigit = true :=
    fun digit mem => Nat.isDigit_of_mem_toDigits (by decide) (Nat.le_refl 10) mem
  rw [Spells, Nat.toString_eq_repr, Nat.toList_repr]
  cases shown : Nat.toDigits 10 value with
  | nil => exact absurd shown Nat.toDigits_ne_nil
  | cons digit more =>
      rw [shown] at digits
      have whole := List.takeWhile_eq_self_iff.2 digits
      have begins := Begins.number (digits digit List.mem_cons_self) (whole.trans shown.symm)
      rw [List.dropWhile_eq_nil_iff.2 digits] at begins
      exact .token begins .done

end Json

end ChainLaunchers
