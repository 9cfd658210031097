import UnitCatalogue.Identifier

/-!
# Legal names

Which names a constant of the generated module may have, and that every identifier with a letter
or a digit is one of them. Which characters beyond ASCII count as letters is left open: the
statements hold for every choice.
-/

namespace UnitCatalogue

/-- The words that the language of the generated module keeps for itself. -/
def keywords : List String :=
  ["as", "break", "const", "continue", "crate", "else", "enum", "extern", "false", "fn", "for",
   "if", "impl", "in", "let", "loop", "match", "mod", "move", "mut", "pub", "ref", "return",
   "self", "Self", "static", "struct", "super", "trait", "true", "type", "unsafe", "use", "where",
   "while", "async", "await", "dyn", "abstract", "become", "box", "do", "final", "macro",
   "override", "priv", "typeof", "unsized", "virtual", "yield", "try"]

def isNameCharacter (letters : Char → Bool) (c : Char) : Bool :=
  c.isAlphanum || c == '_' || (decide (127 < c.toNat) && letters c)

theorem isNameCharacter_eq (letters : Char → Bool) (c : Char) : isNameCharacter letters c =
    (c.isUpper || c.isLower || c.isDigit || c == '_' || (decide (127 < c.toNat) && letters c)) :=
  rfl

structure IsLegalName (letters : Char → Bool) (name : String) : Prop where
  nonempty : name ≠ ""
  characters : ∀ c ∈ name.toList, isNameCharacter letters c = true
  begins : ∀ c ∈ name.toList.head?, c.isDigit = false
  not_underscore : name ≠ "_"
  not_keyword : name ∉ keywords

variable {letters : Char → Bool}

theorem IsLegalName.not_mem {name : String} (legal : IsLegalName letters name) {c : Char}
    (excluded : isNameCharacter letters c = false) : c ∉ name.toList := by
  intro member
  have included := legal.characters c member
  simp [excluded] at included

namespace Identifier

theorem isNameCharacter_of_isPart {c : Char} (part : isPart c = true) :
    isNameCharacter letters c = true := by
  simp only [isPart, Bool.or_eq_true] at part
  simp only [isNameCharacter_eq, Bool.or_eq_true]
  rcases part with (upper | digit) | underscore
  · exact Or.inl (Or.inl (Or.inl (Or.inl upper)))
  · exact Or.inl (Or.inl (Or.inr digit))
  · exact Or.inl (Or.inr underscore)

theorem isPart_of_mem_maskOthers {text : List Char} {c : Char} (member : c ∈ maskOthers text) :
    isPart c = true := by
  obtain ⟨original, _, rfl⟩ := List.mem_map.mp member
  by_cases part : isPart original = true
  · rw [if_pos part]
    exact part
  · rw [if_neg part]
    decide

theorem mem_of_mem_collapse {text : List Char} {c : Char} (member : c ∈ collapse text) :
    c ∈ text := by
  induction text with
  | nil => exact member
  | cons first rest ih =>
    rw [collapse] at member
    split at member
    · exact List.mem_cons_of_mem _ (ih member)
    · rcases List.mem_cons.mp member with rfl | later
      · exact List.mem_cons_self
      · exact List.mem_cons_of_mem _ (ih later)

theorem mem_guardDigit {text : List Char} {c : Char} (member : c ∈ guardDigit text) :
    c = '_' ∨ c ∈ text := by
  cases text with
  | nil => exact Or.inr member
  | cons first rest =>
    rw [guardDigit] at member
    split at member
    · exact List.mem_cons.mp member
    · exact Or.inr member

theorem isPart_of_mem_key {name : List Char} {c : Char} (member : c ∈ key name) :
    isPart c = true := by
  rw [key] at member
  split at member
  · simp at member
  · rcases mem_guardDigit member with rfl | inner
    · decide
    · exact isPart_of_mem_maskOthers (mem_of_mem_collapse inner)

theorem guardDigit_begins (text : List Char) :
    ∀ c ∈ (guardDigit text).head?, c.isDigit = false := by
  intro c head
  cases text with
  | nil => simp [guardDigit] at head
  | cons first rest =>
    by_cases digit : first.isDigit = true
    · rw [guardDigit, if_pos digit] at head
      obtain rfl : '_' = c := by simpa using head
      decide
    · rw [guardDigit, if_neg digit] at head
      obtain rfl : first = c := by simpa using head
      simpa using digit

theorem key_begins (name : List Char) : ∀ c ∈ (key name).head?, c.isDigit = false := by
  intro c head
  rw [key] at head
  split at head
  · simp at head
  · exact guardDigit_begins _ c head

/-- Every keyword has a small letter, and no identifier has one. -/
theorem keyword_not_part : ∀ word ∈ keywords, word.toList.any (!isPart ·) = true := by
  decide +kernel

theorem ofName_ne {other : String} {c : Char} (inside : c ∈ other.toList)
    (not_part : isPart c = false) (name : String) : ofName name ≠ other := by
  rintro rfl
  rw [ofName, String.toList_ofList] at inside
  simp [isPart_of_mem_key inside] at not_part

theorem ofName_not_mem_keywords (name : String) : ofName name ∉ keywords := by
  intro member
  obtain ⟨c, inside, not_part⟩ := List.any_eq_true.mp (keyword_not_part _ member)
  exact ofName_ne inside (by simpa using not_part) name rfl

theorem isLegalName_ofName {name : String} (nonempty : ofName name ≠ "")
    (named : ofName name ≠ "_") : IsLegalName letters (ofName name) where
  nonempty := nonempty
  characters := by
    intro c member
    rw [ofName, String.toList_ofList] at member
    exact isNameCharacter_of_isPart (isPart_of_mem_key member)
  begins := by
    rw [ofName, String.toList_ofList]
    exact key_begins name.toList
  not_underscore := named
  not_keyword := ofName_not_mem_keywords name

theorem isLegalName_of_eq {identifier name : String} (named : identifier = ofName name)
    (nonempty : identifier ≠ "") (usable : isUnusable identifier = false) :
    IsLegalName letters identifier := by
  subst named
  refine isLegalName_ofName nonempty ?_
  intro underscore
  rw [underscore] at usable
  exact absurd usable (by decide)

end Identifier

end UnitCatalogue
