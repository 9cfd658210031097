import Mathlib.Data.List.Perm.Basic
import UnitCatalogue.Proofs.RenderingLog

/-!
# Rows in another order

Whether some row gets an identifier is told by the names of all rows, and their order does not
matter to it. Rows in another order therefore give the same counts, the same identifiers and the
same aliases. What changes is the order of the units, and which of the rows with one identifier is
the first.
-/

namespace UnitCatalogue

/-- Two different rows of a list that claim one identifier. -/
structure Collide (rows : List Entry) (first second : Entry) : Prop where
  first_mem : first ∈ rows
  second_mem : second ∈ rows
  differ : first ≠ second
  same_identifier : Identifier.ofName first.name = Identifier.ofName second.name

/-- The identifier is the same, and so is the row behind it unless several rows claim it. -/
structure StandsFor (rows : List Entry) (unit other : Declared) : Prop where
  same_identifier : unit.identifier = other.identifier
  same_or_collide : unit.entry = other.entry ∨ Collide rows unit.entry other.entry

theorem nodup_identifiers_keptRows (entries : List Entry) :
    ((keptRows entries).map Declared.identifier).Nodup := by
  have distinct := (Catalogue.sound_addAll entries).distinct
  rw [Catalogue.identifiers, Catalogue.declared_addAll, List.map_append] at distinct
  exact (List.nodup_append.mp distinct).2.1

theorem mem_identifiers_keptRows_iff (entries : List Entry) (identifier : String) :
    identifier ∈ (keptRows entries).map Declared.identifier ↔
      IsClaimable identifier ∧ ∃ row ∈ entries, Identifier.ofName row.name = identifier := by
  have sound := Catalogue.sound_addAll entries
  -- What is declared is a sentinel or kept, and also a sentinel or given out.
  have declared : identifier ∈ sentinels.map Declared.identifier ∨
      identifier ∈ (keptRows entries).map Declared.identifier ↔
      identifier ∈ sentinels.map Declared.identifier ∨
        .added identifier ∈ Catalogue.outcomes {} entries := by
    rw [← Catalogue.isDeclared_addAll_iff, sound.isDeclared_iff, Catalogue.identifiers,
      Catalogue.declared_addAll, List.map_append, List.mem_append]
  have apart : identifier ∈ (keptRows entries).map Declared.identifier →
      identifier ∉ sentinels.map Declared.identifier := by
    intro kept sentinel
    have distinct := sound.distinct
    rw [Catalogue.identifiers, Catalogue.declared_addAll, List.map_append] at distinct
    exact (List.nodup_append.mp distinct).2.2 _ sentinel _ kept rfl
  rw [← Catalogue.added_mem_outcomes_iff]
  constructor
  · intro kept
    exact (declared.mp (Or.inr kept)).resolve_left (apart kept)
  · intro added
    have claimable := ((Catalogue.added_mem_outcomes_iff entries identifier).mp added).1
    exact (declared.mpr (Or.inr added)).resolve_left claimable.not_sentinel

theorem entry_mem_of_mem_keptOf {unit : Declared} {outcomes : List Outcome}
    {entries : List Entry} (kept : unit ∈ keptOf outcomes entries) : unit.entry ∈ entries := by
  induction outcomes generalizing entries with
  | nil => simp [keptOf] at kept
  | cons outcome rest ih =>
    cases entries with
    | nil => simp [keptOf] at kept
    | cons entry entries =>
      by_cases added : ∃ identifier, outcome = .added identifier
      · obtain ⟨identifier, rfl⟩ := added
        rcases List.mem_cons.mp kept with rfl | later
        · exact List.mem_cons_self
        · exact List.mem_cons_of_mem _ (ih later)
      · have dropped : ∀ identifier, outcome ≠ .added identifier :=
          fun identifier same => added ⟨identifier, same⟩
        rw [Catalogue.keptOf_cons_of_not_added _ _ _ dropped] at kept
        exact List.mem_cons_of_mem _ (ih kept)

theorem Catalogue.isBlank_outcome (c : Catalogue) (entry : Entry) :
    (c.outcome entry).isBlank = decide (Identifier.ofName entry.name = "") := by
  rw [Bool.eq_iff_iff, decide_eq_true_iff, ← c.outcome_eq_blank_iff]
  cases c.outcome entry <;> simp [Outcome.isBlank]

theorem Catalogue.isUnusable_outcome (c : Catalogue) (entry : Entry) :
    (c.outcome entry).isUnusable = decide (Identifier.ofName entry.name ≠ "" ∧
      ¬IsUsable (Identifier.ofName entry.name)) := by
  have named := c.outcome_eq_unusable_iff entry entry.name
  simp only [true_and] at named
  rw [Bool.eq_iff_iff, decide_eq_true_iff, ← named]
  cases answer : c.outcome entry with
  | added _ => simp [Outcome.isUnusable]
  | duplicate _ _ => simp [Outcome.isUnusable]
  | blank => simp [Outcome.isUnusable]
  | unusable name => simp [Outcome.isUnusable, ((c.outcome_eq_unusable_iff _ _).mp answer).1]

section Permuted

variable {first second : List Entry} (permuted : first.Perm second)
include permuted

theorem identifiers_keptRows_perm :
    ((keptRows first).map Declared.identifier).Perm
      ((keptRows second).map Declared.identifier) := by
  rw [List.perm_ext_iff_of_nodup (nodup_identifiers_keptRows first)
    (nodup_identifiers_keptRows second)]
  intro identifier
  simp only [mem_identifiers_keptRows_iff, permuted.mem_iff]

theorem isTaken_addAll_perm (identifier : String) :
    (Catalogue.addAll {} first).isTaken identifier =
      (Catalogue.addAll {} second).isTaken identifier := by
  rw [Bool.eq_iff_iff, Catalogue.isTaken_addAll_iff, Catalogue.isTaken_addAll_iff]
  simp only [Catalogue.added_mem_outcomes_iff, permuted.mem_iff]

theorem isDeclared_addAll_perm (identifier : String) :
    (Catalogue.addAll {} first).isDeclared identifier =
      (Catalogue.addAll {} second).isDeclared identifier := by
  simp only [Catalogue.isDeclared, isTaken_addAll_perm permuted]

theorem keptAliases_addAll_perm (aliases : List Alias) :
    (Catalogue.addAll {} first).keptAliases aliases =
      (Catalogue.addAll {} second).keptAliases aliases := by
  rw [Catalogue.keptAliases, Catalogue.keptAliases, Catalogue.verdicts_congr
    (isDeclared_addAll_perm permuted) (isTaken_addAll_perm permuted)]

theorem duplicates_render_perm (aliases : List Alias)
    (units : (render first aliases).report.units = (render second aliases).report.units)
    (blank : (render first aliases).report.blankRows = (render second aliases).report.blankRows)
    (unusable :
      (render first aliases).report.unusableRows = (render second aliases).report.unusableRows) :
    (render first aliases).report.duplicates = (render second aliases).report.duplicates := by
  have all := countP_kinds (Catalogue.outcomes {} first)
  have all' := countP_kinds (Catalogue.outcomes {} second)
  have rows := Catalogue.length_outcomes {} first
  have rows' := Catalogue.length_outcomes {} second
  have lengths := permuted.length_eq
  simp only [render, countOutcomes] at units blank unusable ⊢
  omega

theorem report_render_perm (aliases : List Alias) :
    (render first aliases).report = (render second aliases).report := by
  have units : (render first aliases).report.units = (render second aliases).report.units := by
    have same := (identifiers_keptRows_perm permuted).length_eq
    rwa [List.length_map, List.length_map, length_keptRows first aliases,
      length_keptRows second aliases] at same
  have blank : (render first aliases).report.blankRows =
      (render second aliases).report.blankRows := by
    simp only [render, countOutcomes, Catalogue.countP_outcomes Catalogue.isBlank_outcome,
      permuted.countP_eq]
  have unusable : (render first aliases).report.unusableRows =
      (render second aliases).report.unusableRows := by
    simp only [render, countOutcomes, Catalogue.countP_outcomes Catalogue.isUnusable_outcome,
      permuted.countP_eq]
  have duplicates := duplicates_render_perm permuted aliases units blank unusable
  have names : (render first aliases).report.aliases = (render second aliases).report.aliases := by
    simp only [render, countOutcomes, keptAliases_addAll_perm permuted]
  cases told : (render first aliases).report
  cases told' : (render second aliases).report
  simp only [told, told'] at units duplicates blank unusable names
  rw [units, duplicates, blank, unusable, names]

/-- The units of one order can be lined up with those of the other by their identifiers. -/
theorem exists_reordered_keptRows : ∃ reordered, reordered.Perm (keptRows second) ∧
    List.Forall₂ (StandsFor first) (keptRows first) reordered := by
  have named : List.Forall₂ (fun identifier (unit : Declared) => identifier = unit.identifier)
      ((keptRows second).map Declared.identifier) (keptRows second) := by
    rw [List.forall₂_map_left_iff, List.forall₂_same]
    exact fun _ _ => rfl
  obtain ⟨reordered, lined_up, perm⟩ :=
    List.perm_comp_forall₂ (identifiers_keptRows_perm permuted) named
  rw [List.forall₂_map_left_iff] at lined_up
  refine ⟨reordered, perm, ?_⟩
  obtain ⟨lengths, pairs⟩ := List.forall₂_iff_zip.mp lined_up
  refine List.forall₂_iff_zip.mpr ⟨lengths, fun {unit other} member => ?_⟩
  have same := pairs member
  obtain ⟨kept, inside⟩ := List.of_mem_zip member
  have kept' := perm.mem_iff.mp inside
  refine ⟨same, ?_⟩
  by_cases equal : unit.entry = other.entry
  · exact Or.inl equal
  · refine Or.inr ⟨entry_mem_of_mem_keptOf kept, ?_, equal, ?_⟩
    · exact permuted.mem_iff.mpr (entry_mem_of_mem_keptOf kept')
    · rw [← identifier_of_mem_keptRows kept, ← identifier_of_mem_keptRows kept', same]

end Permuted

/-- Rows in another order give the same report, the same identifiers and the same aliases. The two
modules are assembled from these aliases and from units that can be lined up: each has the same
identifier and the same row on both sides, unless several rows claim the identifier. -/
theorem row_order_keeps_what_exists {first second : List Entry} (permuted : first.Perm second)
    (aliases : List Alias) :
    let kept := (Catalogue.addAll {} first).keptAliases aliases
    (render first aliases).report = (render second aliases).report ∧
    ((keptRows first).map Declared.identifier).Perm
      ((keptRows second).map Declared.identifier) ∧
    (Catalogue.addAll {} second).keptAliases aliases = kept ∧
    (render first aliases).text = assemble ((keptRows first).map Declared.item) kept ∧
    (render second aliases).text = assemble ((keptRows second).map Declared.item) kept ∧
    ∃ reordered, reordered.Perm (keptRows second) ∧
      List.Forall₂ (StandsFor first) (keptRows first) reordered := by
  intro kept
  have same_aliases : (Catalogue.addAll {} second).keptAliases aliases = kept :=
    (keptAliases_addAll_perm permuted aliases).symm
  refine ⟨report_render_perm permuted aliases, identifiers_keptRows_perm permuted, same_aliases,
    ?_, ?_, exists_reordered_keptRows permuted⟩
  · rw [render, Catalogue.items_addAll]
  · rw [render, Catalogue.items_addAll, same_aliases]

/-- Two rows that collide, in both orders: another row is kept, and the counts are the same. -/
theorem metre_rows_swapped :
    let metre : Entry := ⟨"metre", some "MTR", some "m"⟩
    let other : Entry := ⟨"Metre", some "XXX", none⟩
    [metre, other].Perm [other, metre] ∧
    (keptRows [metre, other]).map Declared.entry = [metre] ∧
    (keptRows [other, metre]).map Declared.entry = [other] ∧
    (render [metre, other] [⟨"M", "METRE"⟩]).report =
      (render [other, metre] [⟨"M", "METRE"⟩]).report := by
  intro metre other
  have swapped : [metre, other].Perm [other, metre] := List.Perm.swap other metre []
  refine ⟨swapped, by decide +kernel, by decide +kernel, ?_⟩
  exact (row_order_keeps_what_exists swapped [⟨"M", "METRE"⟩]).1

end UnitCatalogue
