import UnitCatalogue.Proofs.StringLiterals

/-!
# Literals decode to their text

A literal of the generated module is closed by its last character and by no other. It stands in one
line, its escapes decode to the text and to nothing else, and a reader stops exactly behind it,
whatever follows.
-/

namespace UnitCatalogue.Text

/-- No quote stands without a backslash before it, and every backslash has a character behind it. -/
def isSealed : List Char → Bool
  | [] => true
  | ['\\'] => false
  | '\\' :: _ :: rest => isSealed rest
  | c :: rest => c != '"' && isSealed rest

theorem isSealed_cons {c : Char} (not_quote : c ≠ '"') (not_backslash : c ≠ '\\')
    (rest : List Char) : isSealed (c :: rest) = isSealed rest := by
  rw [isSealed]
  · simp [not_quote]
  · simp [not_backslash]
  · simp [not_backslash]

theorem isSealed_append_of_not_mem {front : List Char} (no_quote : '"' ∉ front)
    (no_backslash : '\\' ∉ front) (rest : List Char) :
    isSealed (front ++ rest) = isSealed rest := by
  induction front with
  | nil => rfl
  | cons c front ih =>
    simp only [List.mem_cons, not_or] at no_quote no_backslash
    rw [List.cons_append, isSealed_cons (Ne.symm no_quote.1) (Ne.symm no_backslash.1),
      ih no_quote.2 no_backslash.2]

theorem Escapes.isSealed_append {spelling : List Char} {c : Char} (escapes : Escapes spelling c)
    (rest : List Char) : isSealed (spelling ++ rest) = isSealed rest := by
  cases escapes with
  | itself not_quote not_backslash _ _ => exact isSealed_cons not_quote not_backslash rest
  | short meaning => rfl
  | @number digits value count number _ _ _ =>
    have no_quote : '"' ∉ digits := number.not_mem (by decide) (by decide)
    have no_backslash : '\\' ∉ digits := number.not_mem (by decide) (by decide)
    -- The backslash takes the letter with it; the braces and the digits stand for themselves.
    change isSealed (('{' :: (digits ++ ['}'])) ++ rest) = isSealed rest
    exact isSealed_append_of_not_mem (by simp [no_quote]) (by simp [no_backslash]) rest

theorem EscapedAs.isSealed {body text : List Char} (escaped : EscapedAs body text) :
    isSealed body = true := by
  induction escaped with
  | nil => rfl
  | cons escapes _ ih => rw [escapes.isSealed_append, ih]

/-- A body decodes to one text only. -/
theorem EscapedAs.unique {body text other : List Char} (escaped : EscapedAs body text)
    (escaped' : EscapedAs body other) : other = text := by
  have both := (escaped'.spells.readBody []).symm.trans (escaped.spells.readBody [])
  exact congrArg Prod.fst (Option.some.inj both)

/-- Between its quotes a literal is sealed, keeps to its line, and decodes to the text and to no
other text. Whatever follows the literal, the reader gives the text and all that follows, and there
is no other literal that could be read there. -/
theorem literal_decodes_exactly (text : String) :
    (∃ body, (literal text).toList = '"' :: (body ++ ['"']) ∧
      isSealed body = true ∧ '\n' ∉ body ∧ '\r' ∉ body ∧
      ∀ decoded, EscapedAs body decoded ↔ decoded = text.toList) ∧
    ∀ after, readQuoted ((literal text).toList ++ after) = some (text.toList, after) ∧
      ∀ spelling other rest, SpellsLiteral spelling other →
        spelling ++ rest = (literal text).toList ++ after →
          spelling = (literal text).toList ∧ other = text.toList ∧ rest = after := by
  have chars : (literal text).toList = QuoteStyle.literal.quote text.toList :=
    String.toList_ofList
  have escaped := escapedAs_body .literal text.toList
  have spells := spellsLiteral_quote .literal text.toList
  rw [chars]
  refine ⟨⟨QuoteStyle.literal.body text.toList, rfl, escaped.isSealed, escaped.not_mem (Or.inl rfl),
    escaped.not_mem (Or.inr rfl), fun decoded => ⟨escaped.unique, ?_⟩⟩, fun after =>
      ⟨spells.readQuoted after, fun spelling other rest read same => read.unique spells same⟩⟩
  rintro rfl
  exact escaped

/-- A text that looks like escapes, with quotes at both ends and a backslash before the last. -/
example : literal "\"\\u{41}\\n\\\"" = "\"\\\"\\\\u{41}\\\\n\\\\\\\"\"" := by decide +kernel

end UnitCatalogue.Text
