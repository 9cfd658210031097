import Mathlib.Data.Bool.AllAny
import Mathlib.Data.List.Induction
import UnitCatalogue.Identifier

/-!
# Inserted text

While the substitutions are made one after the other, each character remembers whether one of them
has put it in. No substitution of the table looks for a character that another one puts in, so all
of them act on characters of the display name.
-/

namespace UnitCatalogue.Identifier

/-- The characters that a substitution looks for. -/
def Substitution.pattern : Substitution → List Char
  | .single c _ => [c]
  | .pair c d _ => [c, d]

def Substitution.replacement : Substitution → List Char
  | .single _ replacement => replacement
  | .pair _ _ replacement => replacement

/-- The substitutions of a list, one after the other. -/
def applyAll (table : List Substitution) (text : List Char) : List Char :=
  table.foldl (fun text substitution => substitution.apply text) text

theorem applyAll_cons (substitution : Substitution) (table : List Substitution)
    (text : List Char) :
    applyAll (substitution :: table) text = applyAll table (substitution.apply text) := rfl

theorem applyAll_append (table more : List Substitution) (text : List Char) :
    applyAll (table ++ more) text = applyAll more (applyAll table text) :=
  List.foldl_append

theorem substituteAll_eq (text : List Char) :
    substituteAll text = applyAll substitutions text := rfl

/-- A character, and whether a substitution has put it in. -/
structure Traced where
  character : Char
  inserted : Bool

def original (text : List Char) : List Traced := text.map (⟨·, false⟩)

def insertion (replacement : List Char) : List Traced := replacement.map (⟨·, true⟩)

def traceSingle (c : Char) (replacement : List Char) (text : List Traced) : List Traced :=
  text.flatMap fun x => if x.character = c then insertion replacement else [x]

def tracePair (c d : Char) (replacement : List Char) : List Traced → List Traced
  | x :: y :: rest =>
    if x.character = c ∧ y.character = d then
      insertion replacement ++ tracePair c d replacement rest
    else x :: tracePair c d replacement (y :: rest)
  | rest => rest

def Substitution.trace : Substitution → List Traced → List Traced
  | .single c replacement => traceSingle c replacement
  | .pair c d replacement => tracePair c d replacement

/-- The same substitutions, and what they have put in. -/
def traceAll (table : List Substitution) (text : List Char) : List Traced :=
  table.foldl (fun text substitution => substitution.trace text) (original text)

theorem map_character_original (text : List Char) :
    (original text).map Traced.character = text := by
  simp [original, Function.comp_def]

theorem map_character_insertion (replacement : List Char) :
    (insertion replacement).map Traced.character = replacement := by
  simp [insertion, Function.comp_def]

theorem map_character_tracePair (c d : Char) (replacement : List Char) (text : List Traced) :
    (tracePair c d replacement text).map Traced.character =
      replacePair c d replacement (text.map Traced.character) := by
  induction text using tracePair.induct c d with
  | case1 x y rest same ih =>
    rw [tracePair, if_pos same, List.map_append, map_character_insertion, ih]
    simp only [List.map_cons, replacePair, if_pos same]
  | case2 x y rest differs ih =>
    rw [tracePair, if_neg differs, List.map_cons, ih]
    simp only [List.map_cons, replacePair, if_neg differs]
  | case3 text short =>
    match text with
    | [] => rfl
    | [x] => rfl
    | x :: y :: rest => exact absurd rfl (short x y rest)

theorem Substitution.map_character_trace (substitution : Substitution) (text : List Traced) :
    (substitution.trace text).map Traced.character =
      substitution.apply (text.map Traced.character) := by
  cases substitution with
  | single c replacement =>
    simp only [trace, apply, traceSingle, replaceSingle, List.map_flatMap, List.flatMap_map]
    congr 1
    funext x
    split <;> simp [map_character_insertion]
  | pair c d replacement => exact map_character_tracePair c d replacement text

theorem map_character_foldl_trace (table : List Substitution) (text : List Traced) :
    (table.foldl (fun text substitution => substitution.trace text) text).map
      Traced.character = applyAll table (text.map Traced.character) := by
  induction table generalizing text with
  | nil => rfl
  | cons substitution rest ih =>
    rw [List.foldl_cons, ih, substitution.map_character_trace, applyAll_cons]

/-- Tracing changes nothing. -/
theorem map_character_traceAll (table : List Substitution) (text : List Char) :
    (traceAll table text).map Traced.character = applyAll table text := by
  rw [traceAll, map_character_foldl_trace, map_character_original]

theorem mem_tracePair {c d : Char} {replacement : List Char} {text : List Traced} {x : Traced}
    (member : x ∈ tracePair c d replacement text) : x ∈ text ∨ x ∈ insertion replacement := by
  induction text using tracePair.induct c d with
  | case1 first second rest same ih =>
    rw [tracePair, if_pos same] at member
    rcases List.mem_append.mp member with inserted | later
    · exact Or.inr inserted
    · refine (ih later).imp_left fun inside => ?_
      exact List.mem_cons_of_mem _ (List.mem_cons_of_mem _ inside)
  | case2 first second rest differs ih =>
    rw [tracePair, if_neg differs] at member
    rcases List.mem_cons.mp member with rfl | later
    · exact Or.inl List.mem_cons_self
    · exact (ih later).imp_left (List.mem_cons_of_mem _)
  | case3 text short =>
    rw [tracePair] at member
    · exact Or.inl member
    · exact short

theorem Substitution.mem_trace {substitution : Substitution} {text : List Traced} {x : Traced}
    (member : x ∈ substitution.trace text) :
    x ∈ text ∨ x ∈ insertion substitution.replacement := by
  cases substitution with
  | single c replacement =>
    obtain ⟨y, inside, mapped⟩ := List.mem_flatMap.mp member
    by_cases same : y.character = c
    · rw [if_pos same] at mapped
      exact Or.inr mapped
    · rw [if_neg same, List.mem_singleton] at mapped
      exact Or.inl (mapped ▸ inside)
  | pair c d replacement => exact mem_tracePair member

/-- A character of the result was there before, or it was put in. -/
theorem Substitution.mem_apply {substitution : Substitution} {c : Char} {text : List Char}
    (member : c ∈ substitution.apply text) : c ∈ text ∨ c ∈ substitution.replacement := by
  rw [← map_character_original text, ← substitution.map_character_trace] at member
  obtain ⟨x, traced, rfl⟩ := List.mem_map.mp member
  rcases Substitution.mem_trace traced with before | inserted
  · obtain ⟨c, inside, rfl⟩ := List.mem_map.mp before
    exact Or.inl inside
  · obtain ⟨c, inside, rfl⟩ := List.mem_map.mp inserted
    exact Or.inr inside

/-- What is not of the original text comes from a substitution that has been made. -/
theorem mem_traceAll {table : List Substitution} {text : List Char} {x : Traced}
    (member : x ∈ traceAll table text) : x.inserted = false ∨
      ∃ substitution ∈ table, x.character ∈ substitution.replacement := by
  -- From the back: the last substitution sees what those before it have left.
  induction table using List.reverseRecOn with
  | nil =>
    obtain ⟨c, _, rfl⟩ := List.mem_map.mp member
    exact Or.inl rfl
  | append_singleton done last ih =>
    rw [traceAll, List.foldl_append] at member
    rcases Substitution.mem_trace member with before | inserted
    · refine (ih before).imp_right ?_
      rintro ⟨substitution, made, inside⟩
      exact ⟨substitution, List.mem_append_left _ made, inside⟩
    · obtain ⟨c, inside, rfl⟩ := List.mem_map.mp inserted
      exact Or.inr ⟨last, by simp, inside⟩

theorem not_mem_pattern_of_mem_replacement : ∀ made ∈ substitutions, ∀ other ∈ substitutions,
    ∀ c ∈ made.replacement, c ∉ other.pattern := by
  -- `List.all`, since a quantifier over characters would be decided by trying all of them.
  have apart : ∀ made ∈ substitutions, ∀ other ∈ substitutions,
      made.replacement.all (· ∉ other.pattern) = true := by decide
  intro made before other behind
  exact List.all_iff_forall_prop.mp (apart made before other behind)

/-- Wherever the next substitution of the table finds a character that it looks for, that character
is one of the original text. -/
theorem original_of_mem_pattern {done later : List Substitution} {next : Substitution}
    (table : substitutions = done ++ next :: later) {text : List Char} {x : Traced}
    (member : x ∈ traceAll done text) (sought : x.character ∈ next.pattern) :
    x.inserted = false := by
  rcases mem_traceAll member with genuine | ⟨made, before, inside⟩
  · exact genuine
  · exact absurd sought (not_mem_pattern_of_mem_replacement made (by simp [table, before]) next
      (by simp [table]) x.character inside)

end UnitCatalogue.Identifier
