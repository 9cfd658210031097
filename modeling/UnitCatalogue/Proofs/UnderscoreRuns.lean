import Mathlib.Logic.Relation
import UnitCatalogue.Proofs.EmptyIdentifiers

/-!
# Underscores in a row

Of the underscores that stand in a row one is kept. Where deletions are made is no matter: whoever
deletes an underscore beside another, as often as there are two in a row, ends with the same text.
-/

namespace UnitCatalogue.Identifier

/-- One of two underscores in a row is deleted. -/
inductive Drops : List Char → List Char → Prop where
  | underscore (before after : List Char) :
    Drops (before ++ '_' :: '_' :: after) (before ++ '_' :: after)

/-- The text is what such deletions leave once no two underscores are in a row. -/
structure IsCollapsed (text single : List Char) : Prop where
  deletions : Relation.ReflTransGen Drops text single
  no_run : ¬['_', '_'] <:+: single

/-- An underscore is put in front exactly if a digit stands there. -/
inductive Guards : List Char → List Char → Prop where
  | digit {c : Char} {rest : List Char} (digit : c.isDigit = true) :
    Guards (c :: rest) ('_' :: c :: rest)
  | other {text : List Char} (begins : ∀ c ∈ text.head?, c.isDigit = false) : Guards text text

theorem pair_infix_cons_iff {c d x : Char} {rest : List Char} :
    [c, d] <:+: x :: rest ↔ (x = c ∧ rest.head? = some d) ∨ [c, d] <:+: rest := by
  rw [List.infix_cons_iff, List.cons_prefix_cons]
  apply or_congr_left
  constructor
  · rintro ⟨rfl, tail, rfl⟩
    exact ⟨rfl, rfl⟩
  · rintro ⟨rfl, head⟩
    obtain ⟨more, rfl⟩ := List.head?_eq_some_iff.mp head
    exact ⟨rfl, List.prefix_append [d] more⟩

theorem no_run_collapse (text : List Char) : ¬['_', '_'] <:+: collapse text := by
  induction text with
  | nil => simp [collapse]
  | cons c rest ih =>
    rw [collapse]
    split
    · exact ih
    · next apart =>
      rw [pair_infix_cons_iff, head?_collapse, not_or]
      exact ⟨apart, ih⟩

theorem collapse_of_no_run {text : List Char} (no_run : ¬['_', '_'] <:+: text) :
    collapse text = text := by
  induction text with
  | nil => rfl
  | cons c rest ih =>
    rw [pair_infix_cons_iff, not_or] at no_run
    rw [collapse, if_neg no_run.1, ih no_run.2]

theorem collapse_double_underscore (front rest : List Char) :
    collapse (front ++ '_' :: '_' :: rest) = collapse (front ++ '_' :: rest) := by
  induction front with
  | nil => exact if_pos ⟨rfl, rfl⟩
  | cons c front ih =>
    have head : (front ++ '_' :: '_' :: rest).head? = (front ++ '_' :: rest).head? := by
      cases front <;> rfl
    simp only [List.cons_append, collapse, ih, head]

/-- A run of underscores counts as one. -/
theorem collapse_underscores (front rest : List Char) (count : Nat) :
    collapse (front ++ (List.replicate (count + 1) '_' ++ rest)) =
      collapse (front ++ '_' :: rest) := by
  induction count with
  | zero => rfl
  | succ count ih =>
    rw [← ih, List.replicate_succ, List.replicate_succ]
    exact collapse_double_underscore front _

theorem Drops.cons {text rest : List Char} (drops : Drops text rest) (c : Char) :
    Drops (c :: text) (c :: rest) := by
  obtain ⟨before, after⟩ := drops
  exact Drops.underscore (c :: before) after

theorem Drops.collapse_eq {text rest : List Char} (drops : Drops text rest) :
    collapse text = collapse rest := by
  obtain ⟨before, after⟩ := drops
  exact collapse_double_underscore before after

theorem deletions_collapse (text : List Char) :
    Relation.ReflTransGen Drops text (collapse text) := by
  induction text with
  | nil => exact .refl
  | cons c rest ih =>
    rw [collapse]
    split
    · next run =>
      obtain ⟨rfl, second⟩ := run
      obtain ⟨more, rfl⟩ := List.head?_eq_some_iff.mp second
      exact ih.head (Drops.underscore [] more)
    · exact ih.lift (c :: ·) fun _ _ drops => drops.cons c

/-- All ways to delete end alike. -/
theorem isCollapsed_iff {text single : List Char} :
    IsCollapsed text single ↔ collapse text = single := by
  constructor
  · rintro ⟨deletions, no_run⟩
    rw [← collapse_of_no_run no_run]
    clear no_run
    induction deletions with
    | refl => rfl
    | tail _ drops ih => rw [ih, drops.collapse_eq]
  · rintro rfl
    exact ⟨deletions_collapse text, no_run_collapse text⟩

theorem guardDigit_of_begins {text : List Char} (begins : ∀ c ∈ text.head?, c.isDigit = false) :
    guardDigit text = text := by
  cases text with
  | nil => rfl
  | cons c rest => simp [guardDigit, begins c (by simp)]

theorem guards_iff {text guarded : List Char} :
    Guards text guarded ↔ guardDigit text = guarded := by
  constructor
  · rintro (digit | begins)
    · exact if_pos digit
    · exact guardDigit_of_begins begins
  · rintro rfl
    cases text with
    | nil => exact Guards.other (by simp)
    | cons c rest =>
      by_cases digit : c.isDigit = true
      · rw [guardDigit, if_pos digit]
        exact Guards.digit digit
      · rw [guardDigit, if_neg digit]
        exact Guards.other (by simpa using digit)

theorem no_run_guardDigit {text : List Char} (no_run : ¬['_', '_'] <:+: text) :
    ¬['_', '_'] <:+: guardDigit text := by
  cases text with
  | nil => exact no_run
  | cons c rest =>
    rw [guardDigit]
    split
    · next digit =>
      rw [pair_infix_cons_iff, not_or]
      refine ⟨?_, no_run⟩
      rintro ⟨_, head⟩
      obtain rfl : c = '_' := by simpa using head
      exact absurd digit (by decide)
    · exact no_run

end UnitCatalogue.Identifier
