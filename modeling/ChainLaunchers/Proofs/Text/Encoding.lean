/-
Module: ChainLaunchers.Proofs.Text.Encoding
Purpose: Reading undoes writing, and the bytes of a text can only be cut between characters.
Trusted boundary: none
Main exports:
  Utf8.Spells, Utf8.units_eq_iff, Utf8.decode?_eq_some_iff, Utf8.isValid_iff,
  Utf8.exists_of_encode_eq_append, Utf8.exists_of_occurrence, Utf8.isValid_append
-/
import ChainLaunchers.Text.Utf8
import Mathlib.Data.List.Basic

namespace ChainLaunchers

namespace Utf8

/-! ### Byte classes as numbers -/

theorem between_iff (low high byte : UInt8) :
    (low ≤ byte && byte ≤ high) = true ↔ low.toNat ≤ byte.toNat ∧ byte.toNat ≤ high.toNat := by
  simp only [Bool.and_eq_true, decide_eq_true_eq, UInt8.le_iff_toNat_le]

theorem not_lt_of_between {low high byte bound : UInt8}
    (inside : (low ≤ byte && byte ≤ high) = true) (above : bound ≤ low) : ¬byte < bound := by
  rw [between_iff] at inside
  rw [UInt8.le_iff_toNat_le] at above
  rw [UInt8.lt_iff_toNat_lt]
  omega

/-- A byte of one range is not in a range below it. -/
theorem between_eq_false {low high byte high' : UInt8} (low' : UInt8)
    (inside : (low ≤ byte && byte ≤ high) = true) (below : high' < low) :
    (low' ≤ byte && byte ≤ high') = false := by
  rw [between_iff] at inside
  rw [UInt8.lt_iff_toNat_lt] at below
  rw [← Bool.not_eq_true, between_iff]
  omega

theorem isContinuation_iff (byte : UInt8) :
    isContinuation byte = true ↔ 128 ≤ byte.toNat ∧ byte.toNat ≤ 191 :=
  between_iff 128 191 byte

theorem secondOfThree_iff (first second : UInt8) :
    secondOfThree first second = true ↔ (128 ≤ second.toNat ∧ second.toNat ≤ 191) ∧
      (first.toNat = 224 → 160 ≤ second.toNat) ∧ (first.toNat = 237 → second.toNat < 160) := by
  simp only [secondOfThree, Bool.and_eq_true, isContinuation_iff, Bool.not_eq_true',
    Bool.and_eq_false_imp, decide_eq_true_eq, decide_eq_false_iff_not, UInt8.le_iff_toNat_le,
    UInt8.lt_iff_toNat_lt, ← UInt8.toNat_inj, UInt8.reduceToNat, Nat.not_lt, Nat.not_le,
    and_assoc]

theorem secondOfFour_iff (first second : UInt8) :
    secondOfFour first second = true ↔ (128 ≤ second.toNat ∧ second.toNat ≤ 191) ∧
      (first.toNat = 240 → 144 ≤ second.toNat) ∧ (first.toNat = 244 → second.toNat < 144) := by
  simp only [secondOfFour, Bool.and_eq_true, isContinuation_iff, Bool.not_eq_true',
    Bool.and_eq_false_imp, decide_eq_true_eq, decide_eq_false_iff_not, UInt8.le_iff_toNat_le,
    UInt8.lt_iff_toNat_lt, ← UInt8.toNat_inj, UInt8.reduceToNat, Nat.not_lt, Nat.not_le,
    and_assoc]

/-! ### Spellings

The grammar of well-formed characters, with the code point that each of its words stands for.
Writing produces words of the grammar only, and reading accepts all of them. -/

/-- A byte string spells a code point. -/
inductive Spells : Bytes → Nat → Prop where
  | one {first : UInt8} {code : Nat} (lead : first < 128) (value : code = first.toNat) :
      Spells [first] code
  | two {first second : UInt8} {code : Nat} (lead : (194 ≤ first && first ≤ 223) = true)
      (last : isContinuation second = true)
      (value : code = first.toNat % 32 * 64 + payload second) :
      Spells [first, second] code
  | three {first second third : UInt8} {code : Nat}
      (lead : (224 ≤ first && first ≤ 239) = true)
      (inner : secondOfThree first second = true) (last : isContinuation third = true)
      (value : code = first.toNat % 16 * 4096 + payload second * 64 + payload third) :
      Spells [first, second, third] code
  | four {first second third fourth : UInt8} {code : Nat}
      (lead : (240 ≤ first && first ≤ 244) = true)
      (inner : secondOfFour first second = true) (next : isContinuation third = true)
      (last : isContinuation fourth = true)
      (value : code = first.toNat % 8 * 262144 + payload second * 4096 + payload third * 64
        + payload fourth) :
      Spells [first, second, third, fourth] code

/-- A code point that can be spelled is that of a character: neither a surrogate nor too
large. -/
theorem isValidChar_of_spells {spelling : Bytes} {code : Nat} (spells : Spells spelling code) :
    code.isValidChar := by
  simp only [Nat.isValidChar]
  cases spells with
  | one lead value =>
      simp only [UInt8.lt_iff_toNat_lt, UInt8.reduceToNat] at lead
      omega
  | two lead last value =>
      simp only [payload] at value
      omega
  | three lead inner last value =>
      simp only [between_iff, secondOfThree_iff, UInt8.reduceToNat] at lead inner
      simp only [payload] at value
      omega
  | four lead inner next last value =>
      simp only [between_iff, secondOfFour_iff, UInt8.reduceToNat] at lead inner
      simp only [payload] at value
      omega

/-- A spelling is the only one of its character, and the one that is written. -/
theorem encodeChar_of_spells {spelling : Bytes} {code : Nat} (spells : Spells spelling code) :
    String.utf8EncodeChar (Char.ofNat code) = spelling := by
  have valid := isValidChar_of_spells spells
  have written : (Char.ofNat code).val.toNat = code := by
    rw [Char.ofNat, dif_pos valid]
    rfl
  rw [String.utf8EncodeChar.eq_1, written]
  clear written valid
  cases spells with
  | one lead value =>
      simp only [UInt8.lt_iff_toNat_lt, UInt8.reduceToNat] at lead
      rw [if_pos (by omega), value, UInt8.ofNat_toNat]
  | two lead last value =>
      simp only [between_iff, isContinuation_iff, UInt8.reduceToNat] at lead last
      simp only [payload] at value
      rw [if_neg (by omega), if_pos (by omega)]
      simp only [List.cons.injEq, and_true, ← UInt8.toNat_inj, UInt8.toNat_ofNat']
      omega
  | three lead inner last value =>
      simp only [between_iff, isContinuation_iff, secondOfThree_iff, UInt8.reduceToNat]
        at lead inner last
      simp only [payload] at value
      rw [if_neg (by omega), if_neg (by omega), if_pos (by omega)]
      simp only [List.cons.injEq, and_true, ← UInt8.toNat_inj, UInt8.toNat_ofNat']
      omega
  | four lead inner next last value =>
      simp only [between_iff, isContinuation_iff, secondOfFour_iff, UInt8.reduceToNat]
        at lead inner next last
      simp only [payload] at value
      rw [if_neg (by omega), if_neg (by omega), if_neg (by omega)]
      simp only [List.cons.injEq, and_true, ← UInt8.toNat_inj, UInt8.toNat_ofNat']
      omega

/-- What is written for a character spells it. -/
theorem spells_encodeChar (character : Char) :
    Spells (String.utf8EncodeChar character) character.toNat := by
  have valid : character.toNat.isValidChar := character.valid
  simp only [Nat.isValidChar] at valid
  rw [String.utf8EncodeChar.eq_1]
  simp only [Char.toNat] at *
  generalize character.val.toNat = code at *
  -- The four lengths; in each, the byte classes and the value are arithmetic on the code point.
  split
  · apply Spells.one
    all_goals simp only [UInt8.lt_iff_toNat_lt, UInt8.reduceToNat, UInt8.toNat_ofNat']
    all_goals omega
  · split
    · apply Spells.two
      all_goals simp only [between_iff, isContinuation_iff, payload, UInt8.reduceToNat,
        UInt8.toNat_ofNat']
      all_goals omega
    · split
      · apply Spells.three
        all_goals simp only [between_iff, secondOfThree_iff, isContinuation_iff, payload,
          UInt8.reduceToNat, UInt8.toNat_ofNat']
        all_goals omega
      · apply Spells.four
        all_goals simp only [between_iff, secondOfFour_iff, isContinuation_iff, payload,
          UInt8.reduceToNat, UInt8.toNat_ofNat']
        all_goals omega

/-! ### Reading undoes writing -/

/-- A spelling in front is read as its character. -/
theorem units_of_spells {spelling : Bytes} {code : Nat} (spells : Spells spelling code)
    (rest : Bytes) : units (spelling ++ rest) = some (Char.ofNat code) :: units rest := by
  cases spells with
  | one lead value =>
      rw [List.singleton_append, units.eq_def]
      simp only [lead, value, if_true]
  | two lead last value =>
      have notOne := not_lt_of_between lead (by decide : (128 : UInt8) ≤ 194)
      rw [List.cons_append, units.eq_def]
      simp only [notOne, if_false, lead, if_true, List.cons_append, List.nil_append, last, value]
  | three lead inner last value =>
      have notOne := not_lt_of_between lead (by decide : (128 : UInt8) ≤ 224)
      have notTwo := between_eq_false 194 lead (by decide : (223 : UInt8) < 224)
      rw [List.cons_append, units.eq_def]
      simp only [notOne, notTwo, Bool.false_eq_true, if_false, lead, if_true, List.cons_append,
        List.nil_append, inner, last, value]
  | four lead inner next last value =>
      have notOne := not_lt_of_between lead (by decide : (128 : UInt8) ≤ 240)
      have notTwo := between_eq_false 194 lead (by decide : (223 : UInt8) < 240)
      have notThree := between_eq_false 224 lead (by decide : (239 : UInt8) < 240)
      rw [List.cons_append, units.eq_def]
      simp only [notOne, notTwo, notThree, Bool.false_eq_true, if_false, lead, if_true,
        List.cons_append, List.nil_append, inner, next, last, value]

/-- The characters of a written text are read back, whatever follows. -/
theorem units_encode_append (characters : List Char) (rest : Bytes) :
    units (encode characters ++ rest) = characters.map some ++ units rest := by
  induction characters with
  | nil => rfl
  | cons character more ih =>
      rw [encode_cons, List.append_assoc, units_of_spells (spells_encodeChar character), ih,
        Char.ofNat_toNat]
      rfl

theorem units_encode (characters : List Char) :
    units (encode characters) = characters.map some := by
  simpa [units] using units_encode_append characters []

/-- A spelling that is read as the first character is what is written for it. -/
theorem encode_of_spells {spelling rest : Bytes} {code : Nat} (spells : Spells spelling code)
    (others : ∀ {more : List Char}, units rest = more.map some → encode more = rest)
    {characters : List Char}
    (read : some (Char.ofNat code) :: units rest = characters.map some) :
    encode characters = spelling ++ rest := by
  cases characters with
  | nil => cases read
  | cons character more =>
      rw [List.map_cons, List.cons.injEq, Option.some.injEq] at read
      rw [encode_cons, ← read.1, encodeChar_of_spells spells, others read.2]

/-- Bytes in which every unit is read as a character are what is written for these. -/
theorem encode_of_units {bytes : Bytes} {characters : List Char}
    (read : units bytes = characters.map some) : encode characters = bytes := by
  have malformed {units : List (Option Char)} {others : List Char} :
      none :: units ≠ others.map some := by
    cases others with
    | nil => exact List.cons_ne_nil _ _
    | cons other others => exact fun eq => nomatch (List.cons.inj eq).1
  -- Along the reading; it goes on in four of its cases, and in the others a part is malformed.
  fun_induction units bytes generalizing characters
  case case1 =>
    rw [List.map_eq_nil_iff.1 read.symm, encode_nil]
  case case2 first rest lead ih =>
    exact encode_of_spells (.one lead rfl) ih read
  case case3 first _ lead second rest last ih =>
    exact encode_of_spells (.two lead last rfl) ih read
  case case6 first _ _ lead second inner third rest last ih =>
    exact encode_of_spells (.three lead inner last rfl) ih read
  case case11 first _ _ _ lead second inner third next fourth rest last ih =>
    exact encode_of_spells (.four lead inner next last rfl) ih read
  all_goals exact absurd read malformed

theorem units_eq_iff (bytes : Bytes) (characters : List Char) :
    units bytes = characters.map some ↔ encode characters = bytes := by
  constructor
  · exact encode_of_units
  · rintro rfl
    exact units_encode characters

theorem encode_injective {first second : List Char} (eq : encode first = encode second) :
    first = second := by
  have read : second.map some = first.map some := by
    rw [← units_encode first, ← units_encode second, eq]
  exact (List.map_injective_iff.2 (fun _ _ => Option.some.inj) read).symm

theorem mapM_id_eq_some_iff (readings : List (Option Char)) (characters : List Char) :
    readings.mapM id = some characters ↔ readings = characters.map some := by
  induction readings generalizing characters with
  | nil =>
      cases characters with
      | nil => simp
      | cons character more => simp
  | cons reading others ih =>
      cases reading with
      | none => cases characters <;> simp
      | some found =>
          simp only [List.mapM_cons, id_eq, Option.bind_eq_bind, Option.bind_some,
            Option.pure_def, Option.bind_eq_some_iff, ih, Option.some.injEq]
          constructor
          · rintro ⟨more, rfl, rfl⟩
            rfl
          · intro eq
            cases characters with
            | nil => cases eq
            | cons character more =>
                obtain ⟨same, rest⟩ := List.cons.inj eq
                exact ⟨more, rest, congrArg (· :: more) (Option.some.inj same)⟩

theorem exists_eq_map_some {readings : List (Option Char)}
    (read : readings.all Option.isSome = true) :
    ∃ characters : List Char, readings = characters.map some := by
  induction readings with
  | nil => exact ⟨[], rfl⟩
  | cons reading others ih =>
      rw [List.all_cons, Bool.and_eq_true, Option.isSome_iff_exists] at read
      obtain ⟨⟨character, rfl⟩, rest⟩ := read
      obtain ⟨more, rfl⟩ := ih rest
      exact ⟨character :: more, rfl⟩

/-- Only well-formed bytes have an exact reading, and it is the text that they write. -/
theorem decode?_eq_some_iff (bytes : Bytes) (characters : List Char) :
    decode? bytes = some characters ↔ encode characters = bytes := by
  rw [← units_eq_iff]
  exact mapM_id_eq_some_iff (units bytes) characters

theorem isValid_iff (bytes : Bytes) :
    isValid bytes = true ↔ ∃ characters, encode characters = bytes := by
  constructor
  · intro valid
    obtain ⟨characters, read⟩ := exists_eq_map_some valid
    exact ⟨characters, encode_of_units read⟩
  · rintro ⟨characters, rfl⟩
    rw [isValid, units_encode, List.all_map]
    exact List.all_eq_true.2 fun _ _ => rfl

/-- Bytes have the exact reading that writes them. -/
theorem toString?_eq_some_iff (bytes : Bytes) (text : String) :
    toString? bytes = some text ↔ ofString text = bytes := by
  rw [toString?, Option.map_eq_some_iff, ofString]
  constructor
  · rintro ⟨characters, read, rfl⟩
    rw [String.toList_ofList, (decode?_eq_some_iff bytes characters).1 read]
  · intro written
    exact ⟨text.toList, (decode?_eq_some_iff bytes text.toList).2 written, String.ofList_toList⟩

theorem isSome_toString? (bytes : Bytes) : (toString? bytes).isSome = isValid bytes := by
  rw [Bool.eq_iff_iff, Option.isSome_iff_exists, isValid_iff]
  constructor
  · rintro ⟨text, read⟩
    exact ⟨text.toList, (toString?_eq_some_iff bytes text).1 read⟩
  · rintro ⟨characters, rfl⟩
    refine ⟨String.ofList characters, (toString?_eq_some_iff _ _).2 ?_⟩
    rw [ofString, String.toList_ofList]

/-! ### Cuts between characters

A byte that continues a character never begins one.  So where the bytes of a text are cut in
front of any other byte, no character is split. -/

/-- A byte string that does not begin inside a character. -/
def BeginsAfresh (bytes : Bytes) : Prop := ∀ byte ∈ bytes.head?, isContinuation byte = false

theorem isContinuation_eq_false {byte : UInt8} (outside : byte.toNat < 128 ∨ 192 ≤ byte.toNat) :
    isContinuation byte = false := by
  rw [← Bool.not_eq_true, isContinuation_iff]
  omega

/-- The first byte of a character does not continue one, and all others do. -/
theorem encodeChar_eq_cons (character : Char) :
    ∃ first others, String.utf8EncodeChar character = first :: others ∧
      isContinuation first = false ∧ ∀ byte ∈ others, isContinuation byte = true := by
  have spells := spells_encodeChar character
  generalize String.utf8EncodeChar character = spelling at *
  cases spells with
  | one lead value =>
      exact ⟨_, _, rfl, isContinuation_eq_false (.inl lead), by simp⟩
  | two lead last value =>
      have outside := Nat.le_trans (by decide : 192 ≤ 194) ((between_iff _ _ _).1 lead).1
      exact ⟨_, _, rfl, isContinuation_eq_false (.inr outside), by simp [last]⟩
  | three lead inner last value =>
      have outside := Nat.le_trans (by decide : 192 ≤ 224) ((between_iff _ _ _).1 lead).1
      have second := (isContinuation_iff _).2 ((secondOfThree_iff _ _).1 inner).1
      exact ⟨_, _, rfl, isContinuation_eq_false (.inr outside), by simp [second, last]⟩
  | four lead inner next last value =>
      have outside := Nat.le_trans (by decide : 192 ≤ 240) ((between_iff _ _ _).1 lead).1
      have second := (isContinuation_iff _).2 ((secondOfFour_iff _ _).1 inner).1
      exact ⟨_, _, rfl, isContinuation_eq_false (.inr outside), by simp [second, next, last]⟩

/-- A text begins afresh. -/
theorem beginsAfresh_encode (characters : List Char) (rest : Bytes) (occurs : characters ≠ []) :
    BeginsAfresh (encode characters ++ rest) := by
  cases characters with
  | nil => contradiction
  | cons character more =>
      obtain ⟨first, others, spelling, lead, _⟩ := encodeChar_eq_cons character
      intro byte front
      rw [encode_cons, spelling] at front
      obtain rfl := Option.some.inj front
      exact lead

/-- Cutting the bytes of a text in front of a byte that begins a character cuts the text. -/
theorem exists_of_encode_eq_append {text : List Char} {left right : Bytes}
    (whole : encode text = left ++ right) (afresh : BeginsAfresh right) :
    ∃ before after, text = before ++ after ∧ encode before = left ∧ encode after = right := by
  induction text generalizing left with
  | nil =>
      obtain ⟨rfl, rfl⟩ := List.append_eq_nil_iff.1 whole.symm
      exact ⟨[], [], rfl, rfl, rfl⟩
  | cons character more ih =>
      rw [encode_cons] at whole
      rcases List.append_eq_append_iff.1 whole with ⟨kept, rfl, whole'⟩ | ⟨kept, split, rfl⟩
      · -- The first character lies in front of the cut.
        obtain ⟨before, after, rfl, rfl, rfl⟩ := ih whole'
        exact ⟨character :: before, after, rfl, rfl, rfl⟩
      · cases left with
        | nil => exact ⟨[], character :: more, rfl, rfl, by rw [encode_cons, split]; rfl⟩
        | cons byte left =>
            -- What the cut would split off the character could only continue one.
            obtain ⟨first, others, spelling, _, follows⟩ := encodeChar_eq_cons character
            obtain ⟨rfl, rfl⟩ := List.cons.inj (spelling.symm.trans split)
            cases kept with
            | nil => exact ⟨[character], more, rfl, by simp [split], rfl⟩
            | cons inner kept =>
                have inside := follows inner (List.mem_append_right left List.mem_cons_self)
                exact absurd inside (Bool.eq_false_iff.1 (afresh inner rfl))

/-- A text in front of the bytes of a text is the beginning of it. -/
theorem exists_of_encode_prefix {text start : List Char} {right : Bytes}
    (whole : encode text = encode start ++ right) :
    ∃ after, text = start ++ after ∧ encode after = right := by
  have read : text.map some = start.map some ++ units right := by
    rw [← units_encode, whole, units_encode_append]
  obtain ⟨front, after, rfl, isStart, isRight⟩ := List.map_eq_append_iff.1 read
  obtain rfl := List.map_injective_iff.2 (fun _ _ => Option.some.inj) isStart
  exact ⟨after, rfl, encode_of_units isRight.symm⟩

/-- Where the bytes of a literal occur among the bytes of a text, the literal occurs in the
text. -/
theorem exists_of_occurrence {text pattern : List Char} {left right : Bytes}
    (occurs : pattern ≠ []) (whole : encode text = left ++ encode pattern ++ right) :
    ∃ before after, text = before ++ pattern ++ after ∧ encode before = left ∧
      encode after = right := by
  rw [List.append_assoc] at whole
  obtain ⟨before, others, rfl, rfl, whole'⟩ :=
    exists_of_encode_eq_append whole (beginsAfresh_encode pattern right occurs)
  obtain ⟨after, rfl, rfl⟩ := exists_of_encode_prefix whole'
  exact ⟨before, after, (List.append_assoc before pattern after).symm, rfl, rfl⟩

/-! ### Well-formed parts -/

theorem isValid_ofString (text : String) : isValid (ofString text) = true :=
  (isValid_iff _).2 ⟨text.toList, rfl⟩

/-- Where bytes are cut in front of a byte that begins a character, they are well-formed exactly
if both parts are. -/
theorem isValid_append {left right : Bytes} (afresh : BeginsAfresh right) :
    isValid (left ++ right) = (isValid left && isValid right) := by
  rw [Bool.eq_iff_iff, Bool.and_eq_true, isValid_iff, isValid_iff, isValid_iff]
  constructor
  · rintro ⟨text, whole⟩
    obtain ⟨before, after, rfl, isLeft, isRight⟩ := exists_of_encode_eq_append whole afresh
    exact ⟨⟨before, isLeft⟩, ⟨after, isRight⟩⟩
  · rintro ⟨⟨before, rfl⟩, ⟨after, rfl⟩⟩
    exact ⟨before ++ after, encode_append before after⟩

theorem isValid_cons {byte : UInt8} (ascii : byte < 128) (rest : Bytes) :
    isValid (byte :: rest) = isValid rest := by
  have read := units_of_spells (.one ascii rfl : Spells [byte] byte.toNat) rest
  rw [List.singleton_append] at read
  rw [isValid, read]
  rfl

theorem isValid_of_ascii {bytes : Bytes} (ascii : ∀ byte ∈ bytes, byte < 128) :
    isValid bytes = true := by
  induction bytes with
  | nil => rfl
  | cons byte rest ih =>
      rw [List.forall_mem_cons] at ascii
      rw [isValid_cons ascii.1, ih ascii.2]

theorem beginsAfresh_cons {byte : UInt8} (ascii : byte < 128) (rest : Bytes) :
    BeginsAfresh (byte :: rest) := by
  intro first front
  obtain rfl := Option.some.inj front
  exact isContinuation_eq_false (Or.inl ascii)

end Utf8

end ChainLaunchers
