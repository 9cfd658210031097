import Mathlib.Data.List.Induction
import UnitCatalogue.Proofs.AliasChoice

/-!
# Which aliases are selected

An alias is selected when its target is declared, its name is free, and no alias before it that
meets these two conditions has its name. The choice keeps a list of claimed names while it runs, and
an alias without a target never enters it.
-/

namespace UnitCatalogue.Catalogue

/-- An alias that is kept if no other one asks for its name. -/
structure IsSelectable (c : Catalogue) (a : Alias) : Prop where
  target : a.target ∈ c.identifiers
  unheld : a.name ∉ c.identifiers
  not_table : a.name ∉ reservedIdentifiers

instance (c : Catalogue) (a : Alias) : Decidable (c.IsSelectable a) :=
  decidable_of_iff
    (a.target ∈ c.identifiers ∧ a.name ∉ c.identifiers ∧ a.name ∉ reservedIdentifiers)
    ⟨fun ⟨target, unheld, table⟩ => ⟨target, unheld, table⟩,
      fun selectable => ⟨selectable.target, selectable.unheld, selectable.not_table⟩⟩

/-- The alias can be kept, and none of these aliases takes its name away. -/
def SelectedAfter (c : Catalogue) (before : List Alias) (a : Alias) : Prop :=
  c.IsSelectable a ∧ ∀ b ∈ before, c.IsSelectable b → b.name ≠ a.name

instance (c : Catalogue) (before : List Alias) (a : Alias) :
    Decidable (c.SelectedAfter before a) :=
  inferInstanceAs (Decidable (_ ∧ _))

/-- The aliases that are selected after those before them, in order. -/
def selection (c : Catalogue) (aliases : List Alias) : List Alias :=
  (aliases.zipIdx.filter fun (a, place) => c.SelectedAfter (aliases.take place) a).map Prod.fst

theorem selection_sublist (c : Catalogue) (aliases : List Alias) :
    (c.selection aliases).Sublist aliases := by
  have whole := (List.filter_sublist (p := fun (a, place) =>
    decide (c.SelectedAfter (aliases.take place) a)) (l := aliases.zipIdx)).map Prod.fst
  rwa [List.zipIdx_map_fst] at whole

/-- A further alias is judged by those before it and changes nothing for them. -/
theorem selection_append_singleton (c : Catalogue) (before : List Alias) (a : Alias) :
    c.selection (before ++ [a]) =
      c.selection before ++ if c.SelectedAfter before a then [a] else [] := by
  have earlier : (before.zipIdx.filter fun (b, place) =>
        c.SelectedAfter ((before ++ [a]).take place) b) =
      before.zipIdx.filter fun (b, place) => c.SelectedAfter (before.take place) b := by
    apply List.filter_congr
    rintro ⟨b, place⟩ member
    have bound : place ≤ before.length := Nat.le_of_lt (List.snd_lt_of_mem_zipIdx member)
    simp only [List.take_append_of_le_length bound]
  rw [selection, List.zipIdx_append, List.filter_append, List.map_append, earlier, ← selection]
  congr 1
  by_cases selected : c.SelectedAfter before a <;> simp [selected]

variable {c : Catalogue} {earlier : List String}

theorem Sound.isSelectable_iff (sound : c.Sound) (a : Alias) :
    c.IsSelectable a ↔ c.isDeclared a.target = true ∧ c.isTaken a.name = false := by
  rw [sound.isDeclared_iff, ← Bool.not_eq_true, sound.inStep.isTaken_iff, not_or]
  exact ⟨fun selectable => ⟨selectable.target, selectable.unheld, selectable.not_table⟩,
    fun ⟨target, unheld, table⟩ => ⟨target, unheld, table⟩⟩

/-- The names kept of the first part are claimed when the second part is judged. -/
theorem keptFrom_append (c : Catalogue) (earlier : List String) (before after : List Alias) :
    c.keptFrom earlier (before ++ after) = c.keptFrom earlier before ++
      c.keptFrom (((c.keptFrom earlier before).map Alias.name).reverse ++ earlier) after := by
  induction before generalizing earlier with
  | nil => rfl
  | cons a rest ih =>
    by_cases kept : c.judge earlier a = .kept
    · rw [List.cons_append, keptFrom_cons_of_kept kept, keptFrom_cons_of_kept kept, ih]
      simp
    · rw [List.cons_append, keptFrom_cons_of_dropped kept, keptFrom_cons_of_dropped kept, ih]

theorem keptAliases_eq (c : Catalogue) (aliases : List Alias) :
    c.keptAliases aliases = c.keptFrom [] aliases := rfl

theorem keptAliases_append (c : Catalogue) (before after : List Alias) :
    c.keptAliases (before ++ after) = c.keptAliases before ++
      c.keptFrom ((c.keptAliases before).map Alias.name).reverse after := by
  have split := keptFrom_append c [] before after
  rwa [List.append_nil] at split

/-- The names that are claimed are those of the earlier aliases that could be kept. -/
theorem Sound.mem_keptNames_iff (sound : c.Sound) (aliases : List Alias) (name : String) :
    name ∈ (c.keptAliases aliases).map Alias.name ↔
      ∃ b ∈ aliases, c.IsSelectable b ∧ b.name = name := by
  constructor
  · intro claimed
    obtain ⟨b, kept, rfl⟩ := List.mem_map.mp claimed
    rw [keptAliases_eq] at kept
    obtain ⟨member, declared, free, _⟩ := mem_keptFrom kept
    exact ⟨b, member, (sound.isSelectable_iff b).mpr ⟨declared, free⟩, rfl⟩
  · rintro ⟨b, member, selectable, rfl⟩
    obtain ⟨declared, free⟩ := (sound.isSelectable_iff b).mp selectable
    rw [keptAliases_eq]
    exact (name_mem_keptFrom member declared free).resolve_left List.not_mem_nil

theorem Sound.keptAliases_append_singleton (sound : c.Sound) (before : List Alias) (a : Alias) :
    c.keptAliases (before ++ [a]) =
      c.keptAliases before ++ if c.SelectedAfter before a then [a] else [] := by
  have selected_iff : c.judge ((c.keptAliases before).map Alias.name).reverse a = .kept ↔
      c.SelectedAfter before a := by
    rw [judge_eq_kept_iff, List.mem_reverse, sound.mem_keptNames_iff, ← and_assoc,
      ← sound.isSelectable_iff, SelectedAfter]
    simp
  rw [keptAliases_append]
  congr 1
  by_cases selected : c.SelectedAfter before a
  · rw [if_pos selected, keptFrom_cons_of_kept (selected_iff.mpr selected)]
    rfl
  · rw [if_neg selected, keptFrom_cons_of_dropped (mt selected_iff.mp selected)]
    rfl

theorem Sound.keptAliases_eq_selection (sound : c.Sound) (aliases : List Alias) :
    c.keptAliases aliases = c.selection aliases := by
  induction aliases using List.reverseRecOn with
  | nil => rfl
  | append_singleton before a ih =>
    rw [sound.keptAliases_append_singleton, ih, selection_append_singleton]

/-- An alias that is dropped for its target might as well be absent. -/
theorem keptAliases_without_target (c : Catalogue) {a : Alias}
    (missing : c.isDeclared a.target = false) (before after : List Alias) :
    c.keptAliases (before ++ a :: after) = c.keptAliases (before ++ after) := by
  have dropped : c.judge ((c.keptAliases before).map Alias.name).reverse a ≠ .kept := by
    intro kept
    have declared := (judge_eq_kept_iff.mp kept).1
    simp [missing] at declared
  rw [keptAliases_append, keptAliases_append, keptFrom_cons_of_dropped dropped]

theorem keptFrom_eq_self {aliases : List Alias}
    (selectable : ∀ a ∈ aliases, c.isDeclared a.target = true ∧ c.isTaken a.name = false)
    (distinct : (aliases.map Alias.name).Nodup)
    (unclaimed : ∀ a ∈ aliases, a.name ∉ earlier) : c.keptFrom earlier aliases = aliases := by
  induction aliases generalizing earlier with
  | nil => rfl
  | cons a rest ih =>
    obtain ⟨declared, free⟩ := selectable a List.mem_cons_self
    have kept : c.judge earlier a = .kept :=
      judge_eq_kept_iff.mpr ⟨declared, free, unclaimed a List.mem_cons_self⟩
    rw [List.map_cons, List.nodup_cons] at distinct
    rw [keptFrom_cons_of_kept kept, ih _ distinct.2]
    · intro b member claimed
      rcases List.mem_cons.mp claimed with same | before
      · exact distinct.1 (List.mem_map.mpr ⟨b, member, same⟩)
      · exact unclaimed b (List.mem_cons_of_mem _ member) before
    · exact fun b member => selectable b (List.mem_cons_of_mem _ member)

/-- Selecting from what was selected drops nothing. -/
theorem keptAliases_keptAliases (c : Catalogue) (aliases : List Alias) :
    c.keptAliases (c.keptAliases aliases) = c.keptAliases aliases := by
  rw [keptAliases_eq c (c.keptAliases aliases)]
  apply keptFrom_eq_self
  · intro a kept
    rw [keptAliases_eq] at kept
    obtain ⟨_, declared, free, _⟩ := mem_keptFrom kept
    exact ⟨declared, free⟩
  · exact nodup_names_keptFrom c [] aliases
  · intro a _ claimed
    cases claimed

/-- What is taken is what is declared and the tables. -/
theorem InStep.isTaken_eq (inStep : c.InStep) (identifier : String) :
    c.isTaken identifier =
      (c.isDeclared identifier || reservedIdentifiers.contains identifier) := by
  have tables := inStep.isTaken_iff identifier
  rw [isDeclared]
  by_cases table : identifier ∈ reservedIdentifiers
  · simp [table, tables]
  · simp [table]

/-- The selected aliases are those with a declared target and a free name for which no earlier alias
of this kind has the same name, in their order. An alias without a declared target takes no name
away. The names are distinct, selecting again changes nothing, a longer list extends the selection,
and only the declared identifiers decide. -/
theorem aliases_selected_in_order (rows : List Entry) (aliases : List Alias) :
    let catalogue := addAll {} rows
    let kept := catalogue.keptAliases
    kept aliases = catalogue.selection aliases ∧
    (kept aliases).Sublist aliases ∧
    (∀ before a after, a.target ∉ catalogue.identifiers →
      kept (before ++ a :: after) = kept (before ++ after)) ∧
    ((kept aliases).map Alias.name).Nodup ∧
    kept (kept aliases) = kept aliases ∧
    (∀ before, before <+: aliases → kept before <+: kept aliases) ∧
    ∀ other : List Entry,
      (∀ identifier, (addAll {} other).isDeclared identifier = catalogue.isDeclared identifier) →
        (addAll {} other).keptAliases aliases = kept aliases := by
  intro catalogue kept
  have sound := sound_addAll rows
  have selected : kept aliases = catalogue.selection aliases :=
    sound.keptAliases_eq_selection aliases
  refine ⟨selected, ?_, ?_, nodup_names_keptFrom catalogue [] aliases,
    keptAliases_keptAliases catalogue aliases, ?_, ?_⟩
  · rw [selected]
    exact selection_sublist catalogue aliases
  · intro before a after missing
    apply keptAliases_without_target
    rwa [← Bool.not_eq_true, sound.isDeclared_iff]
  · rintro before ⟨after, rfl⟩
    rw [show kept (before ++ after) = _ from keptAliases_append catalogue before after]
    exact List.prefix_append _ _
  · intro other same
    have taken : ∀ identifier,
        (addAll {} other).isTaken identifier = catalogue.isTaken identifier := by
      intro identifier
      rw [(sound_addAll other).inStep.isTaken_eq, sound.inStep.isTaken_eq, same]
    show (addAll {} other).keptAliases aliases = catalogue.keptAliases aliases
    rw [keptAliases, verdicts_congr same taken [] aliases, keptAliases]

/-- The first alias has no target, so the second one gets the name that both ask for. -/
example : keptAliases {} [⟨"A", "METRE"⟩, ⟨"A", "NONE"⟩, ⟨"A", "NO_DIMENSION"⟩] =
    [⟨"A", "NONE"⟩] := by
  decide

end UnitCatalogue.Catalogue
