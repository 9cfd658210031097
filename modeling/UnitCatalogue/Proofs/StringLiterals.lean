import UnitCatalogue.Text.Quoted

/-!
# The grammar of string literals

What it means that characters spell a text, stated without the reader and without the writer of
quoted texts. A spelling followed by a quote is read in one way only, and in both styles a quoted
text spells the text.
-/

namespace UnitCatalogue.Text

/-- Hexadecimal digits, among which underscores may stand: the value, and the number of digits. -/
inductive SpellsNumber : List Char → Nat → Nat → Prop where
  | first {c : Char} {digit : Nat} : hexValue? c = some digit → SpellsNumber [c] digit 1
  | next {spelling : List Char} {value count : Nat} {c : Char} {digit : Nat} :
      SpellsNumber spelling value count → hexValue? c = some digit →
      SpellsNumber (spelling ++ [c]) (16 * value + digit) (count + 1)
  | underscore {spelling : List Char} {value count : Nat} :
      SpellsNumber spelling value count → SpellsNumber (spelling ++ ['_']) value count

/-- The ways to spell one character inside a literal. -/
inductive SpellsCharacter : List Char → Char → Prop where
  | plain {c : Char} : c ≠ '"' → c ≠ '\\' → c ≠ '\r' → SpellsCharacter [c] c
  | short {letter c : Char} : shortMeaning? letter = some c → SpellsCharacter ['\\', letter] c
  | byte {first second : Char} {high low : Nat} :
      hexValue? first = some high → high < 8 → hexValue? second = some low →
      SpellsCharacter ['\\', 'x', first, second] (Char.ofNat (16 * high + low))
  | number {digits : List Char} {value count : Nat} :
      SpellsNumber digits value count → count ≤ 6 → value.isValidChar →
      SpellsCharacter ('\\' :: 'u' :: '{' :: (digits ++ ['}'])) (Char.ofNat value)

/-- The characters between the quotes of a literal, and the text that they spell. A backslash at
the end of a line spells nothing, together with all the blanks behind it. -/
inductive Spells : List Char → List Char → Prop where
  | nil : Spells [] []
  | character {spelling rest text : List Char} {c : Char} :
      SpellsCharacter spelling c → Spells rest text → Spells (spelling ++ rest) (c :: text)
  | lineEnd {blanks rest text : List Char} :
      (∀ c ∈ blanks, isLineBlank c = true) → (∀ c, rest.head? = some c → isLineBlank c = false) →
      Spells rest text → Spells ('\\' :: '\n' :: (blanks ++ rest)) text

def SpellsLiteral (spelling text : List Char) : Prop :=
  ∃ body, Spells body text ∧ spelling = '"' :: (body ++ ['"'])

section Reading

theorem readBody_digit {c : Char} {digit count : Nat} (value : Nat)
    (hex : hexValue? c = some digit) (room : count < 6) (after : List Char) :
    readBody (.inNumber value count) (c :: after) =
      readBody (.inNumber (16 * value + digit) (count + 1)) after := by
  have not_brace : c ≠ '}' := by
    rintro rfl
    simp [hexValue?] at hex
  have not_underscore : c ≠ '_' := by
    rintro rfl
    simp [hexValue?] at hex
  rw [readBody, if_neg not_brace, if_neg not_underscore]
  simp only [hex, if_pos room]

theorem SpellsNumber.count_pos {spelling : List Char} {value count : Nat}
    (number : SpellsNumber spelling value count) : 0 < count := by
  induction number with
  | first _ => exact Nat.one_pos
  | next _ _ _ => exact Nat.succ_pos _
  | underscore _ ih => exact ih

/-- Behind the digits the reader knows their value and their number, whatever comes next. -/
theorem SpellsNumber.readBody {spelling : List Char} {value count : Nat}
    (number : SpellsNumber spelling value count) (room : count ≤ 6) (after : List Char) :
    readBody (.inNumber 0 0) (spelling ++ after) = readBody (.inNumber value count) after := by
  induction number generalizing after with
  | first hex => simpa using readBody_digit 0 hex (show 0 < 6 by omega) after
  | next _ hex ih =>
    rw [List.append_assoc, ih (by omega)]
    exact readBody_digit _ hex (by omega) after
  | underscore before ih =>
    rw [List.append_assoc, ih room, List.singleton_append, Text.readBody]
    simp only [Char.reduceEq, if_false, if_true, if_pos before.count_pos]

theorem SpellsCharacter.readBody {spelling : List Char} {c : Char}
    (character : SpellsCharacter spelling c) (after : List Char) :
    readBody (.plain false) (spelling ++ after) =
      (readBody (.plain false) after).map (prepend c) := by
  cases character with
  | plain not_quote not_backslash not_return =>
    simp [Text.readBody, not_quote, not_backslash, not_return]
  | @short letter _ meaning =>
    have not_byte : letter ≠ 'x' := by rintro rfl; simp [shortMeaning?] at meaning
    have not_number : letter ≠ 'u' := by rintro rfl; simp [shortMeaning?] at meaning
    have not_line_end : letter ≠ '\n' := by rintro rfl; simp [shortMeaning?] at meaning
    simp [Text.readBody, not_byte, not_number, not_line_end, meaning]
  | byte high_hex small low_hex => simp [Text.readBody, high_hex, small, low_hex]
  | number digits room valid =>
    simp only [List.cons_append, List.append_assoc, List.nil_append]
    simp only [Text.readBody, Bool.false_and, Bool.false_eq_true, if_false, if_true,
      Char.reduceEq]
    rw [digits.readBody room, Text.readBody]
    simp only [if_true, digits.count_pos, valid, and_self]

theorem readBody_blanks {blanks : List Char} (all_blank : ∀ c ∈ blanks, isLineBlank c = true)
    (after : List Char) :
    readBody (.plain true) (blanks ++ after) = readBody (.plain true) after := by
  induction blanks with
  | nil => rfl
  | cons c rest ih =>
    have blank := all_blank c List.mem_cons_self
    simp only [List.cons_append, readBody, blank, Bool.and_self, if_true]
    exact ih fun b member => all_blank b (List.mem_cons_of_mem _ member)

/-- Nothing is skipped before a character that is no blank. -/
theorem readBody_skipping {after : List Char}
    (begins : ∀ c, after.head? = some c → isLineBlank c = false) :
    readBody (.plain true) after = readBody (.plain false) after := by
  cases after with
  | nil => rfl
  | cons c rest => simp [readBody, begins c rfl]

/-- The reader stops exactly at the end of a spelling, and has its text. -/
theorem Spells.readBody {body text : List Char} (spells : Spells body text)
    (after : List Char) :
    readBody (.plain false) (body ++ '"' :: after) = some (text, after) := by
  induction spells with
  | nil => simp [Text.readBody]
  | character character _ ih =>
    rw [List.append_assoc, character.readBody, ih]
    rfl
  | @lineEnd blanks rest text all_blank begins _ ih =>
    have stops : ∀ c, (rest ++ '"' :: after).head? = some c → isLineBlank c = false := by
      intro c head
      cases rest with
      | nil =>
        obtain rfl : '"' = c := by simpa using head
        decide
      | cons first more => exact begins c (by simpa using head)
    simp only [List.cons_append, List.append_assoc, Text.readBody, Bool.false_and,
      Bool.false_eq_true, if_false, if_true, Char.reduceEq]
    rw [readBody_blanks all_blank, readBody_skipping stops, ih]

theorem SpellsLiteral.readQuoted {spelling text : List Char}
    (literal : SpellsLiteral spelling text) (after : List Char) :
    readQuoted (spelling ++ after) = some (text, after) := by
  obtain ⟨body, spells, rfl⟩ := literal
  simpa [Text.readQuoted] using spells.readBody after

/-- Two literals that begin the same characters are one literal: they end at the same place and
spell the same text. -/
theorem SpellsLiteral.unique {spelling spelling' text text' after after' : List Char}
    (first : SpellsLiteral spelling text) (second : SpellsLiteral spelling' text')
    (same : spelling ++ after = spelling' ++ after') :
    spelling = spelling' ∧ text = text' ∧ after = after' := by
  have results : some (text, after) = some (text', after') := by
    rw [← first.readQuoted after, ← second.readQuoted after', same]
  obtain ⟨rfl, rfl⟩ := Prod.mk.inj (Option.some.inj results)
  exact ⟨List.append_cancel_right same, rfl, rfl⟩

end Reading

/-- The spellings of one character in a quoted text, which keeps to fewer of them than a literal:
to the characters that stand for themselves, to the short escapes, and to numbers without
underscores. -/
inductive Escapes : List Char → Char → Prop where
  | itself {c : Char} : c ≠ '"' → c ≠ '\\' → c ≠ '\r' → c ≠ '\n' → Escapes [c] c
  | short {letter c : Char} : shortMeaning? letter = some c → Escapes ['\\', letter] c
  | number {digits : List Char} {value count : Nat} :
      SpellsNumber digits value count → '_' ∉ digits → count ≤ 6 → value.isValidChar →
      Escapes ('\\' :: 'u' :: '{' :: (digits ++ ['}'])) (Char.ofNat value)

inductive EscapedAs : List Char → List Char → Prop where
  | nil : EscapedAs [] []
  | cons {spelling rest text : List Char} {c : Char} :
      Escapes spelling c → EscapedAs rest text → EscapedAs (spelling ++ rest) (c :: text)

theorem Escapes.spells {spelling : List Char} {c : Char} (escapes : Escapes spelling c) :
    SpellsCharacter spelling c := by
  cases escapes with
  | itself not_quote not_backslash not_return _ =>
    exact .plain not_quote not_backslash not_return
  | short meaning => exact .short meaning
  | number number _ room valid => exact .number number room valid

theorem EscapedAs.spells {body text : List Char} (escaped : EscapedAs body text) :
    Spells body text := by
  induction escaped with
  | nil => exact .nil
  | cons escapes _ ih => exact .character escapes.spells ih

section Writing

theorem hexValue_digitChar :
    ∀ digit, digit < 16 → hexValue? (Nat.digitChar digit) = some digit := by decide

theorem spellsNumber_toDigits (n : Nat) :
    SpellsNumber (Nat.toDigits 16 n) n (Nat.toDigits 16 n).length := by
  induction n using Nat.strongRecOn with
  | ind n ih =>
    by_cases small : n < 16
    · rw [Nat.toDigits_of_lt_base small]
      exact .first (hexValue_digitChar n small)
    · rw [Nat.toDigits_of_base_le (by omega) (by omega), List.length_append]
      have step := (ih (n / 16) (by omega)).next (hexValue_digitChar (n % 16) (by omega))
      rwa [Nat.div_add_mod] at step

theorem hexValue_of_mem_toDigits {n : Nat} {c : Char} (member : c ∈ Nat.toDigits 16 n) :
    (hexValue? c).isSome = true := by
  induction n using Nat.strongRecOn with
  | ind n ih =>
    by_cases small : n < 16
    · rw [Nat.toDigits_of_lt_base small, List.mem_singleton] at member
      rw [member, hexValue_digitChar n small]
      rfl
    · rw [Nat.toDigits_of_base_le (by omega) (by omega)] at member
      rcases List.mem_append.mp member with before | last
      · exact ih (n / 16) (by omega) before
      · rw [List.mem_singleton.mp last, hexValue_digitChar (n % 16) (by omega)]
        rfl

theorem length_codeDigits_le (c : Char) : (Nat.toDigits 16 c.toNat).length ≤ 6 := by
  rw [Nat.length_toDigits_le_iff (by omega) (by omega)]
  have valid := c.valid
  simp only [UInt32.isValidChar, Nat.isValidChar] at valid
  change c.val.toNat < 16 ^ 6
  omega

theorem escapes_numberEscape (c : Char) : Escapes (numberEscape c) c := by
  have no_underscore : '_' ∉ Nat.toDigits 16 c.toNat := by
    intro member
    have hex := hexValue_of_mem_toDigits member
    simp [hexValue?] at hex
  have number := Escapes.number (spellsNumber_toDigits c.toNat) no_underscore
    (length_codeDigits_le c) c.valid
  rwa [Char.ofNat_toNat] at number

theorem shortMeaning_shortEscape {c letter : Char} (h : shortEscape? c = some letter) :
    shortMeaning? letter = some c := by
  unfold shortEscape? at h
  split at h <;> simp_all [shortMeaning?] <;> subst h <;> decide

theorem shortEscape_eq_none {c : Char} (h : shortEscape? c = none) :
    c ≠ '"' ∧ c ≠ '\\' ∧ c ≠ '\r' ∧ c ≠ '\n' := by
  refine ⟨?_, ?_, ?_, ?_⟩ <;> rintro rfl <;> simp [shortEscape?] at h

theorem escapes_escape (style : QuoteStyle) (first : Bool) (c : Char) :
    Escapes (style.escape first c) c := by
  rw [QuoteStyle.escape]
  split
  · next letter short => exact .short (shortMeaning_shortEscape short)
  · next short =>
    obtain ⟨not_quote, not_backslash, not_return, not_newline⟩ := shortEscape_eq_none short
    split
    · next apostrophe =>
      simp only [Bool.and_eq_true, beq_iff_eq] at apostrophe
      obtain ⟨_, rfl⟩ := apostrophe
      exact .short rfl
    · split
      · exact escapes_numberEscape c
      · split
        · exact escapes_numberEscape c
        · exact .itself not_quote not_backslash not_return not_newline

theorem escapedAs_flatMap_escape (style : QuoteStyle) (text : List Char) :
    EscapedAs (text.flatMap (style.escape false)) text := by
  induction text with
  | nil => exact .nil
  | cons c rest ih => exact .cons (escapes_escape style false c) ih

theorem escapedAs_body (style : QuoteStyle) (text : List Char) :
    EscapedAs (style.body text) text := by
  cases text with
  | nil => exact .nil
  | cons c rest =>
    exact .cons (escapes_escape style true c) (escapedAs_flatMap_escape style rest)

theorem spellsLiteral_quote (style : QuoteStyle) (text : List Char) :
    SpellsLiteral (style.quote text) text :=
  ⟨style.body text, (escapedAs_body style text).spells, rfl⟩

theorem SpellsNumber.hexadecimal {spelling : List Char} {value count : Nat}
    (number : SpellsNumber spelling value count) :
    ∀ c ∈ spelling, c = '_' ∨ (hexValue? c).isSome = true := by
  induction number with
  | first hex =>
    intro c member
    obtain rfl := List.mem_singleton.mp member
    simp [hex]
  | next _ hex ih =>
    intro c member
    rcases List.mem_append.mp member with before | last
    · exact ih c before
    · obtain rfl := List.mem_singleton.mp last
      simp [hex]
  | underscore _ ih =>
    intro c member
    rcases List.mem_append.mp member with before | last
    · exact ih c before
    · exact Or.inl (List.mem_singleton.mp last)

theorem SpellsNumber.not_mem {spelling : List Char} {value count : Nat}
    (number : SpellsNumber spelling value count) {c : Char} (not_underscore : c ≠ '_')
    (not_hex : hexValue? c = none) : c ∉ spelling := by
  intro member
  rcases number.hexadecimal c member with underscore | hex
  · exact not_underscore underscore
  · rw [not_hex] at hex
    cases hex

/-- A character of a line end is never part of an escape. -/
theorem Escapes.not_mem {spelling : List Char} {c lineEnd : Char} (escapes : Escapes spelling c)
    (ends : lineEnd = '\n' ∨ lineEnd = '\r') : lineEnd ∉ spelling := by
  cases escapes with
  | itself _ _ not_return not_newline =>
    rcases ends with rfl | rfl
    · simpa using not_newline.symm
    · simpa using not_return.symm
  | @short letter _ meaning =>
    have differs : letter ≠ lineEnd := by
      rintro rfl
      rcases ends with rfl | rfl <;> simp [shortMeaning?] at meaning
    rcases ends with rfl | rfl <;> simpa using differs.symm
  | number number =>
    rcases ends with rfl | rfl <;> simpa using number.not_mem (by decide) (by decide)

theorem EscapedAs.not_mem {body text : List Char} (escaped : EscapedAs body text) {lineEnd : Char}
    (ends : lineEnd = '\n' ∨ lineEnd = '\r') : lineEnd ∉ body := by
  induction escaped with
  | nil => exact List.not_mem_nil
  | cons escapes _ ih =>
    rw [List.mem_append]
    rintro (first | later)
    · exact escapes.not_mem ends first
    · exact ih later

/-- A quoted text stands in one line. -/
theorem newline_not_mem_quote (style : QuoteStyle) (text : List Char) :
    '\n' ∉ style.quote text := by
  simpa [QuoteStyle.quote] using (escapedAs_body style text).not_mem (Or.inl rfl)

end Writing

end UnitCatalogue.Text
