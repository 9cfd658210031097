import UnitCatalogue.Proofs.EmptyIdentifiers
import UnitCatalogue.Proofs.RenderingLog

/-!
# Rows dropped as nameless

A row is dropped without a warning when its name has the empty identifier. Blank names have it, and
so have names of brackets and apostrophes only. A list of rows loses no name without a warning
exactly when it has no such name.
-/

namespace UnitCatalogue

def allDeleted (name : String) : Bool :=
  name.toList.all fun c => decide (c ∈ Identifier.deletedCharacters)

def leavesNothing (name : String) : Bool := Text.allBlank name.toList || allDeleted name

/-- The rows with these names, and no others, are dropped as nameless and counted as such: every
other row is added, or leaves a warning with its name after the events of the rows before it. -/
structure DroppedAsNameless (nameless : String → Bool) (entries : List Entry)
    (aliases : List Alias) : Prop where
  blank_iff {before after : List Entry} {entry : Entry} : entries = before ++ entry :: after →
    ((Catalogue.addAll {} before).outcome entry = .blank ↔ nameless entry.name = true)
  warned {before after : List Entry} {entry : Entry} : entries = before ++ entry :: after →
    nameless entry.name = false →
      let outcome := (Catalogue.addAll {} before).outcome entry
      (∃ identifier, outcome = .added identifier) ∨
      ((∃ identifier kept, outcome = .duplicate identifier kept) ∨
        outcome = .unusable entry.name) ∧
      ∃ event later, event.level = .warn ∧ entry.name ∈ event.fields.map Prod.snd ∧
        (render entries aliases).events =
          rowEvents 0 (Catalogue.outcomes {} before) before ++ event :: later
  counted : (render entries aliases).report.blankRows = entries.countP (nameless ·.name)

variable {entries : List Entry} {aliases : List Alias} {nameless : String → Bool}

/-- The outcome `blank` depends on the name alone, and not on the rows before. -/
theorem outcome_eq_blank_iff_leavesNothing (c : Catalogue) (entry : Entry) :
    c.outcome entry = .blank ↔ leavesNothing entry.name = true := by
  simp [Catalogue.outcome_eq_blank_iff, Identifier.ofName_eq_empty_iff, leavesNothing, allDeleted]

theorem countP_isBlank_outcomes (c : Catalogue) (entries : List Entry) :
    (c.outcomes entries).countP Outcome.isBlank = entries.countP (leavesNothing ·.name) := by
  refine Catalogue.countP_outcomes (fun c entry => ?_) c entries
  rw [Bool.eq_iff_iff, ← outcome_eq_blank_iff_leavesNothing c]
  cases c.outcome entry <;> simp [Outcome.isBlank]

/-- A row that is neither added nor dropped as nameless has a warning with its name. -/
theorem warning_of_outcome {c : Catalogue} {entry : Entry} (named : c.outcome entry ≠ .blank)
    (index : Nat) :
    (∃ identifier, c.outcome entry = .added identifier) ∨
    ((∃ identifier kept, c.outcome entry = .duplicate identifier kept) ∨
      c.outcome entry = .unusable entry.name) ∧
    ∃ event, (c.outcome entry).event? entry index = some event ∧ event.level = .warn ∧
      entry.name ∈ event.fields.map Prod.snd := by
  cases answer : c.outcome entry with
  | added identifier => exact Or.inl ⟨identifier, rfl⟩
  | duplicate identifier kept =>
    refine Or.inr ⟨Or.inl ⟨identifier, kept, rfl⟩, _, rfl, rfl, ?_⟩
    simp [Event.fields]
  | blank => exact absurd answer named
  | unusable name =>
    obtain ⟨rfl, _⟩ := (c.outcome_eq_unusable_iff entry name).mp answer
    refine Or.inr ⟨Or.inr rfl, _, rfl, rfl, ?_⟩
    simp [Event.fields]

theorem droppedAsNameless (entries : List Entry) (aliases : List Alias) :
    DroppedAsNameless leavesNothing entries aliases where
  blank_iff _ := outcome_eq_blank_iff_leavesNothing _ _
  warned := by
    rintro before after entry rfl named
    have kept : (Catalogue.addAll {} before).outcome entry ≠ .blank := by
      rw [Ne, outcome_eq_blank_iff_leavesNothing, named]
      exact Bool.false_ne_true
    rcases warning_of_outcome kept before.length with added | ⟨dropped, event, told, warns, carries⟩
    · exact Or.inl added
    · obtain ⟨later, events⟩ := events_render_at told after aliases
      exact Or.inr ⟨dropped, event, later, warns, carries, events⟩
  counted := countP_isBlank_outcomes {} entries

theorem DroppedAsNameless.congr {other : String → Bool}
    (dropped : DroppedAsNameless nameless entries aliases)
    (same : ∀ entry ∈ entries, nameless entry.name = other entry.name) :
    DroppedAsNameless other entries aliases where
  blank_iff {before after entry} split := by
    rw [← same entry (by simp [split])]
    exact dropped.blank_iff split
  warned {before after entry} split := by
    rw [← same entry (by simp [split])]
    exact dropped.warned split
  counted := by
    rw [dropped.counted]
    exact List.countP_congr fun entry member => by rw [same entry member]

/-- The names that are dropped as nameless are the blank ones and those that consist of brackets and
apostrophes, so only blank names are dropped as nameless exactly when there are no others of the
second kind. -/
theorem only_blank_names_dropped_iff (entries : List Entry) (aliases : List Alias) :
    DroppedAsNameless leavesNothing entries aliases ∧
    (DroppedAsNameless (fun name => Text.allBlank name.toList) entries aliases ↔
      ∀ entry ∈ entries, allDeleted entry.name = true →
        Text.allBlank entry.name.toList = true) := by
  have dropped := droppedAsNameless entries aliases
  refine ⟨dropped, ?_, ?_⟩
  · intro claimed entry member deleted
    obtain ⟨before, after, split⟩ := List.append_of_mem member
    rw [← claimed.blank_iff split, dropped.blank_iff split, leavesNothing, deleted, Bool.or_true]
  · intro others
    refine dropped.congr fun entry member => ?_
    rw [leavesNothing, Bool.or_eq_left_iff_imp]
    exact others entry member

/-- A pair of brackets is a name, yet it is dropped without a warning; with a blank between the
brackets there is one. -/
theorem brackets_dropped_as_nameless :
    Text.allBlank "()".toList = false ∧ Catalogue.outcome {} ⟨"()", none, none⟩ = .blank ∧
    (render [⟨"()", none, none⟩] []).events.map Event.level = [.debug] ∧
    (render [⟨"()", none, none⟩] []).report.blankRows = 1 ∧
    ¬DroppedAsNameless (fun name => Text.allBlank name.toList) [⟨"()", none, none⟩] [] ∧
    Catalogue.outcome {} ⟨"( )", none, none⟩ = .unusable "( )" ∧
    (render [⟨"( )", none, none⟩] []).events.map Event.level = [.warn] := by
  have named : Text.allBlank "()".toList = false := by decide +kernel
  have blank : Catalogue.outcome {} ⟨"()", none, none⟩ = .blank := by decide +kernel
  refine ⟨named, blank, by decide +kernel, by decide +kernel, ?_, by decide +kernel,
    by decide +kernel⟩
  intro claimed
  have split : [(⟨"()", none, none⟩ : Entry)] = [] ++ ⟨"()", none, none⟩ :: [] := rfl
  have nameless := (claimed.blank_iff split).mp blank
  exact Bool.false_ne_true (named.symm.trans nameless)

end UnitCatalogue
