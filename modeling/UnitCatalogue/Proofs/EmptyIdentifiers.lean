import UnitCatalogue.Proofs.CaselessCharacters
import UnitCatalogue.Proofs.InsertedText

/-!
# Names without an identifier

A name has the empty identifier when it is blank, and also when it consists of brackets and
apostrophes: these are deleted. No other step of the way from a name to its identifier empties a
text, since every other substitution leaves a character that is not deleted.
-/

namespace UnitCatalogue.Identifier

open Text

def deletedCharacters : List Char := ['[', ']', '(', ')', '\'']

/-- A character of the text is none of those that are deleted. -/
def Remains (text : List Char) : Prop := ∃ c ∈ text, c ∉ deletedCharacters

instance (text : List Char) : Decidable (Remains text) :=
  decidable_of_iff (text.any fun c => decide (c ∉ deletedCharacters)) (by simp [Remains])

/-- The substitution deletes a character that is to be deleted, or puts one that remains for one
that remains. -/
def Substitution.KeepsRemainder : Substitution → Prop
  | .single c replacement => Remains replacement ↔ c ∉ deletedCharacters
  | .pair c _ replacement => Remains replacement ∧ c ∉ deletedCharacters

instance (substitution : Substitution) : Decidable substitution.KeepsRemainder :=
  match substitution with
  | .single c replacement =>
    inferInstanceAs (Decidable (Remains replacement ↔ c ∉ deletedCharacters))
  | .pair c _ replacement =>
    inferInstanceAs (Decidable (Remains replacement ∧ c ∉ deletedCharacters))

theorem not_remains_nil : ¬Remains [] := by
  rintro ⟨c, member, _⟩
  cases member

theorem remains_cons_iff (c : Char) (text : List Char) :
    Remains (c :: text) ↔ c ∉ deletedCharacters ∨ Remains text := by
  simp [Remains]

theorem remains_append_iff (first second : List Char) :
    Remains (first ++ second) ↔ Remains first ∨ Remains second := by
  simp only [Remains, List.mem_append, or_and_right, exists_or]

theorem remains_replaceSingle_iff {c : Char} {replacement : List Char}
    (keeps : (Substitution.single c replacement).KeepsRemainder) (text : List Char) :
    Remains (replaceSingle c replacement text) ↔ Remains text := by
  induction text with
  | nil => rfl
  | cons x rest ih =>
    have step : replaceSingle c replacement (x :: rest) =
        (if x = c then replacement else [x]) ++ replaceSingle c replacement rest := rfl
    have head : Remains (if x = c then replacement else [x]) ↔ x ∉ deletedCharacters := by
      by_cases same : x = c
      · rw [if_pos same, same]
        exact keeps
      · rw [if_neg same, remains_cons_iff, or_iff_left not_remains_nil]
    rw [step, remains_append_iff, ih, head, remains_cons_iff]

theorem remains_replacePair_iff {c d : Char} {replacement : List Char}
    (keeps : (Substitution.pair c d replacement).KeepsRemainder) (text : List Char) :
    Remains (replacePair c d replacement text) ↔ Remains text := by
  induction text using replacePair.induct c d with
  | case1 x y rest same ih =>
    obtain ⟨rfl, rfl⟩ := same
    rw [replacePair, if_pos ⟨rfl, rfl⟩, remains_append_iff, remains_cons_iff]
    simp only [keeps.1, keeps.2, not_false_eq_true, true_or]
  | case2 x y rest differs ih =>
    rw [replacePair, if_neg differs, remains_cons_iff, ih, remains_cons_iff x]
  | case3 text short =>
    rw [replacePair]
    exact short

theorem remains_applyAll_iff {table : List Substitution}
    (keeps : ∀ substitution ∈ table, substitution.KeepsRemainder) (text : List Char) :
    Remains (applyAll table text) ↔ Remains text := by
  induction table generalizing text with
  | nil => rfl
  | cons substitution rest ih =>
    rw [applyAll_cons, ih fun other member => keeps other (List.mem_cons_of_mem _ member)]
    have head := keeps substitution List.mem_cons_self
    cases substitution with
    | single c replacement => exact remains_replaceSingle_iff head text
    | pair c d replacement => exact remains_replacePair_iff head text

theorem not_mem_applyAll {table : List Substitution} {x : Char}
    (never : ∀ substitution ∈ table, x ∉ substitution.replacement) {text : List Char}
    (absent : x ∉ text) : x ∉ applyAll table text := by
  induction table generalizing text with
  | nil => exact absent
  | cons substitution rest ih =>
    refine ih (fun other member => never other (List.mem_cons_of_mem _ member)) ?_
    intro member
    rcases Substitution.mem_apply member with before | inserted
    · exact absent before
    · exact never substitution List.mem_cons_self inserted

theorem not_mem_delete (x : Char) (text : List Char) :
    x ∉ (Substitution.single x []).apply text := by
  intro member
  obtain ⟨y, _, mapped⟩ := List.mem_flatMap.mp member
  by_cases same : y = x
  · simp [same] at mapped
  · rw [if_neg same, List.mem_singleton] at mapped
    exact same mapped.symm

/-- Once a character is deleted, no later substitution puts it in again. -/
theorem not_mem_substituteAll {x : Char} (deleted : x ∈ deletedCharacters) (text : List Char) :
    x ∉ substituteAll text := by
  -- The deletions stand in the order of `deletedCharacters`, from the seventh place on.
  have split : ∃ before after, substitutions = before ++ .single x [] :: after ∧
      ∀ substitution ∈ after, x ∉ substitution.replacement := by
    simp only [deletedCharacters, List.mem_cons, List.not_mem_nil, or_false] at deleted
    rcases deleted with rfl | rfl | rfl | rfl | rfl
    · exact ⟨substitutions.take 6, substitutions.drop 7, rfl, by decide⟩
    · exact ⟨substitutions.take 7, substitutions.drop 8, rfl, by decide⟩
    · exact ⟨substitutions.take 8, substitutions.drop 9, rfl, by decide⟩
    · exact ⟨substitutions.take 9, substitutions.drop 10, rfl, by decide⟩
    · exact ⟨substitutions.take 10, substitutions.drop 11, rfl, by decide⟩
  obtain ⟨before, after, table, never⟩ := split
  rw [substituteAll_eq, table, applyAll_append, applyAll_cons]
  exact not_mem_applyAll never (not_mem_delete x _)

theorem substituteAll_eq_nil_iff (text : List Char) :
    substituteAll text = [] ↔ ∀ c ∈ text, c ∈ deletedCharacters := by
  have keeps : ∀ substitution ∈ substitutions, substitution.KeepsRemainder := by decide
  have remains : Remains (substituteAll text) ↔ Remains text := remains_applyAll_iff keeps text
  constructor
  · intro empty c member
    apply Decidable.byContradiction
    intro kept
    have left := remains.mpr ⟨c, member, kept⟩
    rw [empty] at left
    exact not_remains_nil left
  · intro deleted
    rw [List.eq_nil_iff_forall_not_mem]
    intro c member
    by_cases gone : c ∈ deletedCharacters
    · exact not_mem_substituteAll gone text member
    · obtain ⟨kept, inside, stays⟩ := remains.mp ⟨c, member, gone⟩
      exact stays (deleted kept inside)

theorem upper_eq_nil_iff (text : List Char) : upper text = [] ↔ text = [] := by
  cases text with
  | nil => simp [upper]
  | cons c rest => simp [upper, upperChar, upperCodes_ne_nil]

theorem head?_collapse (text : List Char) : (collapse text).head? = text.head? := by
  induction text with
  | nil => rfl
  | cons c rest ih =>
    rw [collapse]
    split
    · next run => rw [ih, run.2, run.1, List.head?_cons]
    · rfl

theorem collapse_eq_nil_iff (text : List Char) : collapse text = [] ↔ text = [] := by
  rw [← List.head?_eq_none_iff, head?_collapse, List.head?_eq_none_iff]

theorem guardDigit_eq_nil_iff (text : List Char) : guardDigit text = [] ↔ text = [] := by
  cases text with
  | nil => simp [guardDigit]
  | cons c rest =>
    rw [guardDigit]
    split <;> simp

theorem key_eq_nil_iff (name : List Char) :
    key name = [] ↔ allBlank name = true ∨ ∀ c ∈ name, c ∈ deletedCharacters := by
  rw [key]
  by_cases blank : allBlank name = true
  · simp [blank]
  · rw [if_neg blank, guardDigit_eq_nil_iff, collapse_eq_nil_iff, maskOthers, List.map_eq_nil_iff,
      upper_eq_nil_iff, substituteAll_eq_nil_iff, or_iff_right blank]

theorem ofName_eq_empty_iff (name : String) : ofName name = "" ↔
    allBlank name.toList = true ∨ ∀ c ∈ name.toList, c ∈ deletedCharacters := by
  rw [← key_eq_nil_iff, ofName, ← String.toList_inj, String.toList_ofList, String.toList_empty]

end UnitCatalogue.Identifier
