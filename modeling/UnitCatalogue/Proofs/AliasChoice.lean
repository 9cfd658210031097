import UnitCatalogue.AliasSelection
import UnitCatalogue.Proofs.CatalogueRuns

/-!
# Runs of the alias choice

An alias is judged by the names that were kept before it. The kept names are therefore distinct
and free, and a name that could be kept is kept for one of the aliases that ask for it.
-/

namespace UnitCatalogue.Catalogue

/-- The aliases kept of a list, given the names kept before it; at the start there are none. -/
def keptFrom (c : Catalogue) (earlier : List String) (aliases : List Alias) : List Alias :=
  ((c.verdicts earlier aliases).filter (·.2 == .kept)).map (·.1)

variable {c : Catalogue} {earlier : List String}

theorem judge_eq_kept_iff {a : Alias} : c.judge earlier a = .kept ↔
    c.isDeclared a.target = true ∧ c.isTaken a.name = false ∧ a.name ∉ earlier := by
  rw [judge]
  by_cases declared : c.isDeclared a.target = true
  · rw [declared, Bool.not_true, if_neg Bool.false_ne_true]
    by_cases taken : (c.isTaken a.name || earlier.contains a.name) = true
    · rw [if_pos taken]
      simp only [Bool.or_eq_true, List.contains_eq_mem, decide_eq_true_eq] at taken
      constructor
      · intro same
        cases same
      · rintro ⟨_, free, unclaimed⟩
        rcases taken with held | claimed
        · simp [free] at held
        · exact absurd claimed unclaimed
    · rw [if_neg taken]
      simpa using taken
  · simp [declared]

theorem keptFrom_cons_of_kept {a : Alias} (kept : c.judge earlier a = .kept)
    (rest : List Alias) :
    c.keptFrom earlier (a :: rest) = a :: c.keptFrom (a.name :: earlier) rest := by
  simp [keptFrom, verdicts, kept]

theorem keptFrom_cons_of_dropped {a : Alias} (dropped : c.judge earlier a ≠ .kept)
    (rest : List Alias) : c.keptFrom earlier (a :: rest) = c.keptFrom earlier rest := by
  rw [keptFrom, verdicts]
  cases verdict : c.judge earlier a with
  | kept => exact absurd verdict dropped
  | targetMissing => rfl
  | nameTaken => rfl

theorem mem_keptFrom {a : Alias} {aliases : List Alias}
    (member : a ∈ c.keptFrom earlier aliases) :
    a ∈ aliases ∧ c.isDeclared a.target = true ∧ c.isTaken a.name = false ∧
      a.name ∉ earlier := by
  induction aliases generalizing earlier with
  | nil => cases member
  | cons first rest ih =>
    by_cases kept : c.judge earlier first = .kept
    · rw [keptFrom_cons_of_kept kept] at member
      rcases List.mem_cons.mp member with rfl | later
      · exact ⟨List.mem_cons_self, judge_eq_kept_iff.mp kept⟩
      · obtain ⟨inside, declared, free, unclaimed⟩ := ih later
        exact ⟨List.mem_cons_of_mem _ inside, declared, free,
          fun claimed => unclaimed (List.mem_cons_of_mem _ claimed)⟩
    · rw [keptFrom_cons_of_dropped kept] at member
      obtain ⟨inside, judged⟩ := ih member
      exact ⟨List.mem_cons_of_mem _ inside, judged⟩

theorem nodup_names_keptFrom (c : Catalogue) (earlier : List String) (aliases : List Alias) :
    ((c.keptFrom earlier aliases).map Alias.name).Nodup := by
  induction aliases generalizing earlier with
  | nil => exact List.nodup_nil
  | cons first rest ih =>
    by_cases kept : c.judge earlier first = .kept
    · rw [keptFrom_cons_of_kept kept, List.map_cons, List.nodup_cons]
      refine ⟨?_, ih (first.name :: earlier)⟩
      intro claimed
      obtain ⟨other, member, same⟩ := List.mem_map.mp claimed
      obtain ⟨_, _, _, unclaimed⟩ := mem_keptFrom member
      exact unclaimed (same ▸ List.mem_cons_self)
    · rw [keptFrom_cons_of_dropped kept]
      exact ih earlier

/-- A free name with a declared target goes to some alias: to this one, or to one before it. -/
theorem name_mem_keptFrom {a : Alias} {aliases : List Alias} (member : a ∈ aliases)
    (declared : c.isDeclared a.target = true) (free : c.isTaken a.name = false) :
    a.name ∈ earlier ∨ a.name ∈ (c.keptFrom earlier aliases).map Alias.name := by
  induction aliases generalizing earlier with
  | nil => cases member
  | cons first rest ih =>
    by_cases kept : c.judge earlier first = .kept
    · rw [keptFrom_cons_of_kept kept, List.map_cons, List.mem_cons]
      rcases List.mem_cons.mp member with rfl | later
      · exact Or.inr (Or.inl rfl)
      · rcases (ih later : a.name ∈ first.name :: earlier ∨ _) with claimed | found
        · rcases List.mem_cons.mp claimed with same | before
          · exact Or.inr (Or.inl same)
          · exact Or.inl before
        · exact Or.inr (Or.inr found)
    · rw [keptFrom_cons_of_dropped kept]
      rcases List.mem_cons.mp member with rfl | later
      · by_contra neither
        exact kept (judge_eq_kept_iff.mpr ⟨declared, free, fun before => neither (Or.inl before)⟩)
      · exact ih later

/-- The choice asks the catalogue for nothing but what is declared and what is taken. -/
theorem verdicts_congr {c' : Catalogue}
    (declared : ∀ identifier, c.isDeclared identifier = c'.isDeclared identifier)
    (taken : ∀ identifier, c.isTaken identifier = c'.isTaken identifier)
    (earlier : List String) (aliases : List Alias) :
    c.verdicts earlier aliases = c'.verdicts earlier aliases := by
  induction aliases generalizing earlier with
  | nil => rfl
  | cons a rest ih =>
    have judged : c.judge earlier a = c'.judge earlier a := by
      simp only [judge, declared, taken]
    simp only [verdicts, judged, ih]

end UnitCatalogue.Catalogue
