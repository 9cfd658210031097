/-!
# Pieces of a text

A text is cut at every occurrence of one character. There is one piece more than there are cuts,
and pieces may be empty.
-/

namespace UnitCatalogue.Text

def pieces (cut : Char) : List Char → List (List Char)
  | [] => [[]]
  | c :: rest =>
    if c = cut then [] :: pieces cut rest
    else match pieces cut rest with
      | piece :: more => (c :: piece) :: more
      | [] => [[c]]

theorem pieces_ne_nil (cut : Char) (text : List Char) : pieces cut text ≠ [] := by
  cases text with
  | nil => simp [pieces]
  | cons c rest =>
    unfold pieces
    split
    · exact List.cons_ne_nil _ _
    · split <;> exact List.cons_ne_nil _ _

/-- Putting the cut character between the pieces gives the text back. -/
theorem intercalate_pieces (cut : Char) (text : List Char) :
    [cut].intercalate (pieces cut text) = text := by
  induction text with
  | nil => simp [pieces]
  | cons c rest ih =>
    unfold pieces
    split
    · next here =>
      subst here
      obtain ⟨piece, more, split_rest⟩ := List.exists_cons_of_ne_nil (pieces_ne_nil c rest)
      rw [split_rest] at ih ⊢
      rw [List.intercalate_cons_cons, ih]
      rfl
    · split
      · next piece more split_rest =>
        rw [split_rest] at ih
        cases more with
        | nil => simpa using ih
        | cons next more =>
          rw [List.intercalate_cons_cons] at ih ⊢
          simpa using ih
      · next none => exact absurd none (pieces_ne_nil cut rest)

theorem pieces_of_not_mem {cut : Char} {text : List Char} (whole : cut ∉ text) :
    pieces cut text = [text] := by
  induction text with
  | nil => rfl
  | cons c rest ih =>
    obtain ⟨differs, whole⟩ := not_or.mp (mt List.mem_cons.mpr whole)
    rw [pieces, if_neg (Ne.symm differs), ih whole]

theorem pieces_append_cut {cut : Char} {piece : List Char} (whole : cut ∉ piece)
    (rest : List Char) : pieces cut (piece ++ cut :: rest) = piece :: pieces cut rest := by
  induction piece with
  | nil => simp [pieces]
  | cons c more ih =>
    obtain ⟨differs, whole⟩ := not_or.mp (mt List.mem_cons.mpr whole)
    rw [List.cons_append, pieces, if_neg (Ne.symm differs), ih whole]

end UnitCatalogue.Text
