import UnitCatalogue.Proofs.ModuleItems

/-!
# Aliases among the items of a module

The name of a kept alias goes into its line as it stands. The choice of aliases compares it with
the names of the units and the tables only, so it may be no name at all, or the name of the lookup
function. The module is as intended exactly when the configuration asks for no such alias.
-/

namespace UnitCatalogue

variable {letters : Char → Bool}

theorem Catalogue.Sound.unit_not_mem {c : Catalogue} (sound : c.Sound) :
    "unit" ∉ c.identifiers ++ reservedIdentifiers := by
  intro member
  rcases List.mem_append.mp member with declared | table
  · obtain ⟨unit, inside, same⟩ := List.mem_map.mp declared
    obtain ⟨name, named, _⟩ := sound.exists_name unit inside
    have small : 'u' ∈ "unit".toList := by decide
    exact Identifier.ofName_ne small rfl name (named.symm.trans same)
  · exact absurd table (by decide)

theorem isLegalName_reserved : ∀ name ∈ reservedIdentifiers, IsLegalName letters name := by
  have keys : ∀ name ∈ reservedIdentifiers, name = Identifier.ofName name ∧ name ≠ "" ∧
      Identifier.isUnusable name = false := by
    decide +kernel
  intro name member
  obtain ⟨key, nonempty, usable⟩ := keys name member
  exact Identifier.isLegalName_of_eq key nonempty usable

/-- A name that is held already breaks nothing, for its alias is dropped. -/
theorem Catalogue.Sound.legal_of_isTaken {c : Catalogue} (sound : c.Sound) {name : String}
    (taken : c.isTaken name = true) : IsLegalName letters name ∧ name ≠ "unit" := by
  have held : name ∈ c.identifiers ++ reservedIdentifiers := by
    rw [List.mem_append, ← sound.inStep.isTaken_iff]
    exact taken
  refine ⟨?_, ?_⟩
  · rcases List.mem_append.mp held with declared | table
    · obtain ⟨unit, inside, rfl⟩ := List.mem_map.mp declared
      exact sound.isLegalName letters unit inside
    · exact isLegalName_reserved name table
  · rintro rfl
    exact sound.unit_not_mem held

/-- The condition on the kept aliases carries over to the dropped ones that have a target: their
names are held by an item or by a kept alias. -/
theorem Catalogue.Sound.legal_of_kept {c : Catalogue} (sound : c.Sound) {aliases : List Alias}
    (kept : ∀ a ∈ c.keptAliases aliases, IsLegalName letters a.name ∧ a.name ≠ "unit") :
    ∀ a ∈ aliases, c.isDeclared a.target = true →
      IsLegalName letters a.name ∧ a.name ≠ "unit" := by
  intro a member declared
  cases taken : c.isTaken a.name with
  | true => exact sound.legal_of_isTaken taken
  | false =>
    rcases (name_mem_keptFrom member declared taken : a.name ∈ [] ∨ _) with earlier | found
    · cases earlier
    · obtain ⟨other, inside, same⟩ := List.mem_map.mp found
      rw [← same]
      exact kept other inside

theorem Catalogue.Sound.nodup_itemNames {c : Catalogue} (sound : c.Sound) {aliases : List Alias}
    (apart : ∀ a ∈ c.keptAliases aliases, a.name ≠ "unit") :
    (itemNames c.identifiers ((c.keptAliases aliases).map Alias.name)).Nodup := by
  have unit_apart : "unit" ∉
      c.identifiers ++ (c.keptAliases aliases).map Alias.name ++ reservedIdentifiers := by
    intro named
    rcases List.mem_append.mp named with front | table
    · rcases List.mem_append.mp front with declared | claimed
      · exact sound.unit_not_mem (List.mem_append_left _ declared)
      · obtain ⟨a, inside, same⟩ := List.mem_map.mp claimed
        exact apart a inside same
    · exact sound.unit_not_mem (List.mem_append_right _ table)
  rw [(itemNames_perm _ _).nodup_iff]
  exact (sound.nodup_names aliases).append (List.nodup_singleton _)
    (List.disjoint_singleton.mpr unit_apart)

/-- An alias with the name of the lookup function makes two items of that name. -/
theorem ne_unit_of_count {identifiers aliasNames : List String} {name : String}
    (named : name ∈ aliasNames) (once : (itemNames identifiers aliasNames).count name = 1) :
    name ≠ "unit" := by
  rintro rfl
  have positive := List.count_pos_iff.mpr named
  rw [(itemNames_perm identifiers aliasNames).count_eq] at once
  simp only [List.count_append, List.count_singleton_self] at once
  omega

/-- The kept aliases have legal names that no other item has, and the text has one line for each of
them and no further item, exactly when this holds of the configured aliases: whoever names a unit of
the module has a legal name other than that of the lookup function. -/
theorem aliases_harmless_iff (letters : Char → Bool) (entries : List Entry)
    (aliases : List Alias) :
    let text := (render entries aliases).text
    let identifiers := (sentinels ++ keptRows entries).map Declared.identifier
    let kept := (Catalogue.addAll {} entries).keptAliases aliases
    let names := itemNames identifiers (kept.map Alias.name)
    ((∀ a ∈ kept, IsLegalName letters a.name ∧ names.count a.name = 1) ∧
      textLines text = unitPart text ++ arrayEnd :: aliasLines kept ++ closingLines ++ [""] ∧
      (textLines text).filterMap itemName? = names) ↔
    ∀ a ∈ aliases, a.target ∈ identifiers → IsLegalName letters a.name ∧ a.name ≠ "unit" := by
  intro text identifiers kept names
  have sound := Catalogue.sound_addAll entries
  have declared_iff : ∀ identifier,
      (Catalogue.addAll {} entries).isDeclared identifier = true ↔ identifier ∈ identifiers := by
    intro identifier
    rw [sound.isDeclared_iff, identifiers_addAll]
  constructor
  · rintro ⟨apart, _⟩ a member target
    refine sound.legal_of_kept ?_ a member ((declared_iff a.target).mpr target)
    intro other inside
    obtain ⟨legal, once⟩ := apart other inside
    exact ⟨legal, ne_unit_of_count (List.mem_map_of_mem inside) once⟩
  · intro harmless
    have kept_harmless : ∀ a ∈ kept, IsLegalName letters a.name ∧ a.name ≠ "unit" := by
      intro a inside
      obtain ⟨member, declared, _⟩ := Catalogue.mem_keptFrom inside
      exact harmless a member ((declared_iff a.target).mp declared)
    have nodup := sound.nodup_itemNames fun a inside => (kept_harmless a inside).2
    rw [identifiers_addAll] at nodup
    refine ⟨?_, textLines_render_of_legal fun a inside => (kept_harmless a inside).1⟩
    intro a inside
    have named : a.name ∈ kept.map Alias.name := List.mem_map_of_mem inside
    refine ⟨(kept_harmless a inside).1, List.count_eq_one_of_mem nodup ?_⟩
    exact List.mem_append_left _ (List.mem_append_right _ (List.mem_cons_of_mem _ named))

/-- A configuration that asks for a keyword, for the name of the lookup function, or for a text of
two lines gets it. -/
theorem harmful_aliases_kept :
    let kept := fun name => (Catalogue.addAll {} []).keptAliases [⟨name, "NONE"⟩]
    (kept "fn" = [⟨"fn", "NONE"⟩] ∧ ¬IsLegalName (fun _ => true) "fn") ∧
    (kept "unit" = [⟨"unit", "NONE"⟩] ∧ "unit" ∈ closingNames) ∧
    (aliasLines (kept "A: UnitDescriptor = NONE;\npub const B")).length = 3 ∧
    (textLines (aliasSection (kept "A: UnitDescriptor = NONE;\npub const B"))).filterMap
      itemName? = ["A", "B"] := by
  refine ⟨⟨by decide, ?_⟩, ⟨by decide, by decide⟩, by decide, by decide +kernel⟩
  intro legal
  exact legal.not_keyword (by simp [keywords])

end UnitCatalogue
