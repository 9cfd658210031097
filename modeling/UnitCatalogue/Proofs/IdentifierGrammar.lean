import UnitCatalogue.Proofs.LegalNames
import UnitCatalogue.Proofs.UnderscoreRuns

/-!
# The grammar of identifiers

Whatever the display name, its identifier is made of capital letters, digits and single underscores,
and no digit stands in front. So it can name a constant unless it is empty or an underscore, and
these two are the only identifiers without a letter and without a digit.
-/

namespace UnitCatalogue.Identifier

/-- The characters of an identifier, and how they may stand. -/
structure IsWellFormed (text : List Char) : Prop where
  characters : ∀ c ∈ text, c.isUpper = true ∨ c.isDigit = true ∨ c = '_'
  begins : ∀ c ∈ text.head?, c.isDigit = false
  no_run : ¬['_', '_'] <:+: text

theorem isPart_iff (c : Char) :
    isPart c = true ↔ c.isUpper = true ∨ c.isDigit = true ∨ c = '_' := by
  simp [isPart, or_assoc]

theorem isWellFormed_key (name : List Char) : IsWellFormed (key name) where
  characters c member := (isPart_iff c).mp (isPart_of_mem_key member)
  begins := key_begins name
  no_run := by
    rw [key]
    split
    · simp
    · exact no_run_guardDigit (no_run_collapse _)

/-- Without a letter and without a digit there is room for one underscore. -/
theorem IsWellFormed.eq_of_no_alphanum {text : List Char} (formed : IsWellFormed text)
    (none : ∀ c ∈ text, c.isAlphanum = false) : text = [] ∨ text = ['_'] := by
  have underscores : ∀ c ∈ text, c = '_' := by
    intro c member
    have neither : (c.isUpper || c.isLower || c.isDigit) = false := none c member
    simp only [Bool.or_eq_false_iff] at neither
    rcases formed.characters c member with upper | digit | underscore
    · simp [neither] at upper
    · simp [neither] at digit
    · exact underscore
  cases text with
  | nil => exact Or.inl rfl
  | cons c rest =>
    obtain rfl : c = '_' := underscores c List.mem_cons_self
    cases rest with
    | nil => exact Or.inr rfl
    | cons d rest =>
      obtain rfl : d = '_' := underscores d (List.mem_cons_of_mem _ List.mem_cons_self)
      exact absurd (List.prefix_append ['_', '_'] rest).isInfix formed.no_run

theorem not_isPart_of_isLower {c : Char} (lower : c.isLower = true) : isPart c = false := by
  have low : 'a'.val ≤ c.val := of_decide_eq_true (Bool.and_eq_true_iff.mp lower).1
  rw [Bool.eq_false_iff, ne_eq, isPart_iff]
  rintro (upper | digit | rfl)
  · have high : c.val ≤ 'Z'.val := (of_decide_eq_true upper).2
    exact absurd (UInt32.le_trans low high) (by decide)
  · have high : c.val ≤ '9'.val := of_decide_eq_true (Bool.and_eq_true_iff.mp digit).2
    exact absurd (UInt32.le_trans low high) (by decide)
  · exact absurd low (by decide)

/-- An identifier consists of capital letters, digits and single underscores and begins with no
digit. Unless it is empty or an underscore it is a legal name; it is no keyword, and no name with a
small letter in it. It is empty exactly for a blank name and for one of brackets and apostrophes,
and it has a letter or a digit exactly if it is neither empty nor an underscore. -/
theorem identifier_grammar (letters : Char → Bool) (name : String) :
    IsWellFormed (ofName name).toList ∧
    (ofName name = "" ∨ ofName name = "_" ∨ IsLegalName letters (ofName name)) ∧
    ofName name ∉ keywords ∧
    (∀ other : String, other.toList.any Char.isLower = true → ofName name ≠ other) ∧
    (ofName name = "" ↔ Text.allBlank name.toList = true ∨
      ∀ c ∈ name.toList, c ∈ ['[', ']', '(', ')', '\'']) ∧
    ((∀ c ∈ (ofName name).toList, c.isAlphanum = false) ↔
      ofName name = "" ∨ ofName name = "_") := by
  have formed : IsWellFormed (ofName name).toList := by
    rw [ofName, String.toList_ofList]
    exact isWellFormed_key name.toList
  refine ⟨formed, ?_, ofName_not_mem_keywords name, ?_, ofName_eq_empty_iff name, ?_, ?_⟩
  · by_cases empty : ofName name = ""
    · exact Or.inl empty
    · by_cases underscore : ofName name = "_"
      · exact Or.inr (Or.inl underscore)
      · exact Or.inr (Or.inr (isLegalName_ofName empty underscore))
  · intro other small
    obtain ⟨c, inside, lower⟩ := List.any_eq_true.mp small
    exact ofName_ne inside (not_isPart_of_isLower lower) name
  · intro none
    rcases formed.eq_of_no_alphanum none with empty | underscore
    · exact Or.inl (String.toList_inj.mp empty)
    · exact Or.inr (String.toList_inj.mp underscore)
  · rintro (same | same) <;> simp [same]

/-- Between the brackets stand a slash, a space, and nothing. -/
example : ofName "(/)" = "_PER_" ∧ ofName "( )" = "_" ∧ ofName "()" = "" := by decide +kernel

end UnitCatalogue.Identifier
