import Mathlib.Data.List.Induction
import UnitCatalogue.Lookup
import UnitCatalogue.Proofs.CatalogueRuns

/-!
# The lookup tables of a module

Inside a table the last entry under a key counts, and in the joint table the symbols come after
the names. No two units of a module have the same name, because names with different identifiers
differ, and so no name is lost; symbols may hide one another, and they may hide names.
-/

namespace UnitCatalogue

namespace Table

def DistinctKeys (table : Table) : Prop := (table.map Prod.fst).Nodup

theorem distinctKeys_nil : DistinctKeys [] := List.nodup_nil

variable {table : Table} {key : String} {entry : Entry}

theorem find?_cons (pair : String × Entry) (rest : Table) (key : String) :
    find? (pair :: rest) key = if key = pair.1 then some pair.2 else find? rest key := by
  rw [find?, List.lookup_cons, find?]
  by_cases same : key = pair.1
  · simp [same]
  · simp [same, beq_eq_false_iff_ne.mpr same]

theorem find?_filter_ne (table : Table) {key other : String} (differs : other ≠ key) :
    find? (table.filter (·.1 != key)) other = table.find? other := by
  induction table with
  | nil => rfl
  | cons pair rest ih =>
    by_cases removed : pair.1 = key
    · have elsewhere : other ≠ pair.1 := by rwa [removed]
      rw [List.filter_cons_of_neg (by simpa using removed), ih, find?_cons, if_neg elsewhere]
    · rw [List.filter_cons_of_pos (by simpa using removed), find?_cons, find?_cons, ih]

theorem find?_insert (table : Table) (key : String) (entry : Entry) (other : String) :
    (table.insert key entry).find? other =
      if other = key then some entry else table.find? other := by
  rw [insert, find?_cons]
  by_cases same : other = key
  · rw [if_pos same, if_pos same]
  · rw [if_neg same, if_neg same, find?_filter_ne table same]

theorem distinctKeys_insert (distinct : table.DistinctKeys) (key : String) (entry : Entry) :
    (table.insert key entry).DistinctKeys := by
  have kept : DistinctKeys (table.filter (·.1 != key)) :=
    distinct.sublist (List.filter_sublist.map Prod.fst)
  refine List.nodup_cons.mpr ⟨?_, kept⟩
  intro member
  obtain ⟨pair, inside, same⟩ := List.mem_map.mp member
  have differs := (List.mem_filter.mp inside).2
  simp [same] at differs

theorem distinctKeys_insertAll (distinct : table.DistinctKeys) (pairs : List (String × Entry)) :
    (table.insertAll pairs).DistinctKeys := by
  induction pairs generalizing table with
  | nil => exact distinct
  | cons pair rest ih => exact ih (distinctKeys_insert distinct pair.1 pair.2)

theorem mem_of_find? (found : table.find? key = some entry) : (key, entry) ∈ table := by
  obtain ⟨before, after, same, _⟩ := List.lookup_eq_some_iff.mp found
  simp [same]

theorem find?_eq_some_iff (distinct : table.DistinctKeys) :
    table.find? key = some entry ↔ (key, entry) ∈ table := by
  refine ⟨mem_of_find?, fun member => ?_⟩
  induction table with
  | nil => cases member
  | cons pair rest ih =>
    obtain ⟨fresh, distinct⟩ := List.nodup_cons.mp distinct
    rw [find?_cons]
    rcases List.mem_cons.mp member with rfl | later
    · rw [if_pos rfl]
    · have differs : key ≠ pair.1 := by
        rintro rfl
        exact fresh (List.mem_map.mpr ⟨_, later, rfl⟩)
      rw [if_neg differs]
      exact ih distinct later

theorem find?_perm {other : Table} (distinct : table.DistinctKeys) (same : other.Perm table)
    (key : String) : other.find? key = table.find? key := by
  have distinct' : other.DistinctKeys := (same.map Prod.fst).nodup_iff.mpr distinct
  refine Option.ext fun entry => ?_
  rw [find?_eq_some_iff distinct, find?_eq_some_iff distinct', same.mem_iff]

theorem insertAll_append (table : Table) (first second : List (String × Entry)) :
    table.insertAll (first ++ second) = (table.insertAll first).insertAll second :=
  List.foldl_append

theorem find?_insertAll_of_forall_ne {pairs : List (String × Entry)}
    (absent : ∀ pair ∈ pairs, pair.1 ≠ key) (table : Table) :
    (table.insertAll pairs).find? key = table.find? key := by
  induction pairs generalizing table with
  | nil => rfl
  | cons pair rest ih =>
    have step : table.insertAll (pair :: rest) = (table.insert pair.1 pair.2).insertAll rest := rfl
    rw [step, ih fun other member => absent other (List.mem_cons_of_mem _ member), find?_insert,
      if_neg (absent pair List.mem_cons_self).symm]

/-- The last pair under a key replaces those before it. -/
theorem find?_insertAll_of_last {after : List (String × Entry)}
    (last : ∀ pair ∈ after, pair.1 ≠ key) (before : List (String × Entry)) (table : Table) :
    (table.insertAll (before ++ (key, entry) :: after)).find? key = some entry := by
  have step : ∀ start : Table, start.insertAll ((key, entry) :: after) =
      (start.insert key entry).insertAll after := fun _ => rfl
  rw [insertAll_append, step, find?_insertAll_of_forall_ne last, find?_insert, if_pos rfl]

/-- Pairs with distinct keys go over the table, in whatever order they come. -/
theorem find?_insertAll_of_distinctKeys {pairs : List (String × Entry)}
    (distinct : DistinctKeys pairs) (table : Table) (key : String) :
    (table.insertAll pairs).find? key = (find? pairs key).or (table.find? key) := by
  cases found : find? pairs key with
  | none =>
    have absent : ∀ pair ∈ pairs, pair.1 ≠ key := by
      rintro ⟨_, entry⟩ member rfl
      cases found.symm.trans ((find?_eq_some_iff distinct).mpr member)
    rw [find?_insertAll_of_forall_ne absent, Option.none_or]
  | some entry =>
    obtain ⟨before, after, rfl⟩ := List.append_of_mem (mem_of_find? found)
    have last : ∀ pair ∈ after, pair.1 ≠ key := by
      intro pair member same
      rw [DistinctKeys, List.map_append, List.map_cons] at distinct
      obtain ⟨_, distinct, _⟩ := List.nodup_append.mp distinct
      exact (List.nodup_cons.mp distinct).1 (List.mem_map.mpr ⟨pair, member, same⟩)
    rw [find?_insertAll_of_last last, Option.some_or]

/-- Pairs with distinct keys all stay. -/
theorem insertAll_nil_perm {pairs : List (String × Entry)} (distinct : DistinctKeys pairs) :
    (insertAll [] pairs).Perm pairs := by
  have distinct' : (insertAll [] pairs).DistinctKeys :=
    distinctKeys_insertAll distinctKeys_nil pairs
  rw [List.perm_ext_iff_of_nodup distinct'.of_map distinct.of_map]
  rintro ⟨key, entry⟩
  have empty : find? [] key = none := rfl
  rw [← find?_eq_some_iff distinct', ← find?_eq_some_iff distinct,
    find?_insertAll_of_distinctKeys distinct, empty, Option.or_none]

end Table

/-- The unit has this suffix, and no unit behind it has. -/
def IsLastWithSuffix (units : List Entry) (suffix : String) (unit : Entry) : Prop :=
  unit.suffix = some suffix ∧ ∃ before after, units = before ++ unit :: after ∧
    ∀ later ∈ after, later.suffix ≠ some suffix

theorem IsLastWithSuffix.mem {units : List Entry} {key : String} {unit : Entry}
    (last : IsLastWithSuffix units key unit) : unit ∈ units := by
  obtain ⟨_, before, after, rfl, _⟩ := last
  simp

theorem IsLastWithSuffix.append_left {units : List Entry} {key : String} {unit : Entry}
    (last : IsLastWithSuffix units key unit) (first : List Entry) :
    IsLastWithSuffix (first ++ units) key unit := by
  obtain ⟨held, before, after, rfl, none_later⟩ := last
  exact ⟨held, first ++ before, after, (List.append_assoc _ _ _).symm, none_later⟩

theorem exists_isLastWithSuffix {units : List Entry} {key : String}
    (some_unit : ∃ unit ∈ units, unit.suffix = some key) :
    ∃ last, IsLastWithSuffix units key last := by
  induction units using List.reverseRecOn with
  | nil =>
    obtain ⟨_, member, _⟩ := some_unit
    cases member
  | append_singleton before final ih =>
    by_cases same : final.suffix = some key
    · exact ⟨final, same, before, [], rfl, fun later member => by cases member⟩
    · have earlier : ∃ unit ∈ before, unit.suffix = some key := by
        obtain ⟨unit, member, same'⟩ := some_unit
        rcases List.mem_append.mp member with inside | last
        · exact ⟨unit, inside, same'⟩
        · exact absurd (List.mem_singleton.mp last ▸ same') same
      obtain ⟨last, same', front, back, rfl, none_later⟩ := ih earlier
      refine ⟨last, same', front, back ++ [final], by simp, ?_⟩
      intro later member
      rcases List.mem_append.mp member with inside | at_end
      · exact none_later later inside
      · rwa [List.mem_singleton.mp at_end]

namespace Table

variable {units : List Entry} {key : String} {unit : Entry}

def namePairs (units : List Entry) : List (String × Entry) :=
  units.map fun unit => (unit.name, unit)

def suffixPairs (units : List Entry) : List (String × Entry) :=
  units.filterMap fun unit => unit.suffix.map fun suffix => (suffix, unit)

theorem distinctKeys_namePairs (distinct : (units.map Entry.name).Nodup) :
    DistinctKeys (namePairs units) := by
  rwa [DistinctKeys, namePairs, List.map_map]

theorem distinctKeys_byName (units : List Entry) : (byName units).DistinctKeys :=
  distinctKeys_insertAll distinctKeys_nil _

theorem byName_perm (distinct : (units.map Entry.name).Nodup) :
    (byName units).Perm (namePairs units) :=
  insertAll_nil_perm (distinctKeys_namePairs distinct)

theorem find?_byName_iff (distinct : (units.map Entry.name).Nodup) :
    (byName units).find? key = some unit ↔ unit ∈ units ∧ unit.name = key := by
  rw [find?_eq_some_iff (distinctKeys_byName units), (byName_perm distinct).mem_iff, namePairs,
    List.mem_map]
  constructor
  · rintro ⟨_, member, same⟩
    obtain ⟨rfl, rfl⟩ := Prod.mk.inj same
    exact ⟨member, rfl⟩
  · rintro ⟨member, rfl⟩
    exact ⟨unit, member, rfl⟩

theorem key_of_mem_suffixPairs {pair : String × Entry} (member : pair ∈ suffixPairs units) :
    pair.2 ∈ units ∧ pair.2.suffix = some pair.1 := by
  obtain ⟨unit, inside, mapped⟩ := List.mem_filterMap.mp member
  obtain ⟨suffix, same, rfl⟩ := Option.map_eq_some_iff.mp mapped
  exact ⟨inside, same⟩

theorem find?_bySuffix_of_last (last : IsLastWithSuffix units key unit) :
    (bySuffix units).find? key = some unit := by
  obtain ⟨same, before, after, rfl, none_later⟩ := last
  have cut : suffixPairs (before ++ unit :: after) =
      suffixPairs before ++ (key, unit) :: suffixPairs after := by
    simp [suffixPairs, same]
  have none_behind : ∀ pair ∈ suffixPairs after, pair.1 ≠ key := by
    rintro pair member rfl
    obtain ⟨inside, held⟩ := key_of_mem_suffixPairs member
    exact none_later pair.2 inside held
  exact (congrArg (fun pairs => (insertAll [] pairs).find? key) cut).trans
    (find?_insertAll_of_last none_behind _ _)

theorem find?_bySuffix_eq_none (absent : ∀ unit ∈ units, unit.suffix ≠ some key) :
    (bySuffix units).find? key = none := by
  refine find?_insertAll_of_forall_ne ?_ []
  rintro pair member rfl
  obtain ⟨inside, held⟩ := key_of_mem_suffixPairs member
  exact absent pair.2 inside held

theorem find?_bySuffix_iff :
    (bySuffix units).find? key = some unit ↔ IsLastWithSuffix units key unit := by
  refine ⟨fun found => ?_, find?_bySuffix_of_last⟩
  by_cases present : ∃ other ∈ units, other.suffix = some key
  · obtain ⟨last, is_last⟩ := exists_isLastWithSuffix present
    have same := found.symm.trans (find?_bySuffix_of_last is_last)
    rwa [Option.some.inj same]
  · have absent : ∀ other ∈ units, other.suffix ≠ some key :=
      fun other member held => present ⟨other, member, held⟩
    cases found.symm.trans (find?_bySuffix_eq_none absent)

theorem distinctKeys_bySuffix (units : List Entry) : (bySuffix units).DistinctKeys :=
  distinctKeys_insertAll distinctKeys_nil _

/-- The joint table asks the symbols first, and it does not matter in which order their table is
gone through. -/
theorem find?_joint {order : Table} (same : order.Perm (bySuffix units)) (key : String) :
    ((byName units).insertAll order).find? key =
      ((bySuffix units).find? key).or ((byName units).find? key) := by
  have distinct : order.DistinctKeys :=
    (same.map Prod.fst).nodup_iff.mpr (distinctKeys_bySuffix units)
  rw [find?_insertAll_of_distinctKeys distinct, find?_perm (distinctKeys_bySuffix units) same]

end Table

theorem findUnit?_eq (units : List Entry) (key : String) : findUnit? units key =
    ((Table.bySuffix units).find? key).or ((Table.byName units).find? key) :=
  Table.find?_joint (List.Perm.refl _) key

theorem findUnit?_eq_some_iff {units : List Entry} (distinct : (units.map Entry.name).Nodup)
    (key : String) (unit : Entry) : findUnit? units key = some unit ↔
      IsLastWithSuffix units key unit ∨
        (∀ other ∈ units, other.suffix ≠ some key) ∧ unit ∈ units ∧ unit.name = key := by
  rw [findUnit?_eq]
  by_cases present : ∃ other ∈ units, other.suffix = some key
  · have some_symbol : ¬∀ other ∈ units, other.suffix ≠ some key := by
      obtain ⟨other, member, held⟩ := present
      exact fun absent => absent other member held
    obtain ⟨last, is_last⟩ := exists_isLastWithSuffix present
    rw [← Table.find?_bySuffix_iff, Table.find?_bySuffix_of_last is_last, Option.some_or]
    simp only [some_symbol, false_and, or_false]
  · have absent : ∀ other ∈ units, other.suffix ≠ some key :=
      fun other member held => present ⟨other, member, held⟩
    have no_last : ¬IsLastWithSuffix units key unit := by
      rintro ⟨held, before, after, rfl, _⟩
      exact absent unit (by simp) held
    rw [Table.find?_bySuffix_eq_none absent, Option.none_or, Table.find?_byName_iff distinct,
      or_iff_right no_last, and_iff_right absent]

/-- The units in the order of the array. -/
def moduleUnits (entries : List Entry) : List Entry :=
  (sentinels ++ keptRows entries).map Declared.entry

/-- The identifiers of the sentinels are those of their names. -/
theorem sentinel_identifier :
    ∀ unit ∈ sentinels, unit.identifier = Identifier.ofName unit.entry.name := by
  decide +kernel

theorem nodup_names_moduleUnits (entries : List Entry) :
    ((moduleUnits entries).map Entry.name).Nodup := by
  have sound := Catalogue.sound_addAll entries
  have units : sentinels ++ keptRows entries = (Catalogue.addAll {} entries).declared :=
    (Catalogue.declared_addAll entries).symm
  have identifiers : (Catalogue.addAll {} entries).identifiers =
      ((moduleUnits entries).map Entry.name).map Identifier.ofName := by
    rw [Catalogue.identifiers, moduleUnits, units, List.map_map, List.map_map]
    refine List.map_congr_left fun unit member => ?_
    rcases List.mem_append.mp member with sentinel | added
    · exact sentinel_identifier unit sentinel
    · exact (sound.named unit added).1
  have distinct := sound.distinct
  rw [identifiers] at distinct
  exact distinct.of_map

/-- The names of the units are distinct, so that the table of names has one entry for each unit.
A text stands for the last unit with that symbol, else for the one with that name, else for none,
and this does not depend on the order in which the symbols are entered. A unit is found by its name
unless the name is a symbol, and by its symbol if no unit behind it has the same. -/
theorem lookup_by_name_or_suffix (entries : List Entry) :
    let units := moduleUnits entries
    (units.map Entry.name).Nodup ∧
    (Table.byName units).Perm (units.map fun unit => (unit.name, unit)) ∧
    (∀ name unit, (Table.byName units).find? name = some unit ↔ unit ∈ units ∧ unit.name = name) ∧
    (∀ suffix unit, (Table.bySuffix units).find? suffix = some unit ↔
      IsLastWithSuffix units suffix unit) ∧
    (∀ order key, order.Perm (Table.bySuffix units) →
      ((Table.byName units).insertAll order).find? key = findUnit? units key) ∧
    (∀ key unit, findUnit? units key = some unit ↔ IsLastWithSuffix units key unit ∨
      (∀ other ∈ units, other.suffix ≠ some key) ∧ unit ∈ units ∧ unit.name = key) ∧
    (∀ key, findUnit? units key = none ↔
      ∀ unit ∈ units, unit.suffix ≠ some key ∧ unit.name ≠ key) ∧
    (∀ unit ∈ units, (∀ other ∈ units, other.suffix ≠ some unit.name) →
      findUnit? units unit.name = some unit) ∧
    (∀ before unit after suffix, units = before ++ unit :: after → unit.suffix = some suffix →
      (findUnit? units suffix = some unit ↔ ∀ later ∈ after, later.suffix ≠ some suffix)) := by
  intro units
  have distinct := nodup_names_moduleUnits entries
  have found_iff := findUnit?_eq_some_iff distinct
  refine ⟨distinct, Table.byName_perm distinct, fun name unit => Table.find?_byName_iff distinct,
    fun suffix unit => Table.find?_bySuffix_iff, ?_, found_iff, ?_, ?_, ?_⟩
  · intro order key same
    rw [Table.find?_joint same, findUnit?_eq]
  · intro key
    rw [Option.eq_none_iff_forall_ne_some]
    constructor
    · intro missing unit member
      have no_symbol : ∀ other ∈ units, other.suffix ≠ some key := by
        intro other inside held
        obtain ⟨last, is_last⟩ := exists_isLastWithSuffix ⟨other, inside, held⟩
        exact missing last ((found_iff key last).mpr (Or.inl is_last))
      refine ⟨no_symbol unit member, fun named => ?_⟩
      exact missing unit ((found_iff key unit).mpr (Or.inr ⟨no_symbol, member, named⟩))
    · intro absent unit found
      rcases (found_iff key unit).mp found with last | ⟨_, member, named⟩
      · exact (absent unit last.mem).1 last.1
      · exact (absent unit member).2 named
  · intro unit member no_symbol
    exact (found_iff unit.name unit).mpr (Or.inr ⟨no_symbol, member, rfl⟩)
  · intro before unit after suffix cut held
    constructor
    · -- A later unit with the suffix would be found in place of this one.
      intro found later member held'
      obtain ⟨last, is_last⟩ := exists_isLastWithSuffix ⟨later, member, held'⟩
      have is_last' := is_last.append_left (before ++ [unit])
      rw [List.append_assoc, List.singleton_append, ← cut] at is_last'
      have found' := (found_iff suffix last).mpr (Or.inl is_last')
      obtain rfl := Option.some.inj (found.symm.trans found')
      rw [show moduleUnits entries = before ++ unit :: after from cut, List.map_append,
        List.map_cons] at distinct
      obtain ⟨_, behind, _⟩ := List.nodup_append.mp distinct
      exact (List.nodup_cons.mp behind).1 (List.mem_map_of_mem is_last.mem)
    · intro none_later
      exact (found_iff suffix unit).mpr (Or.inl ⟨held, before, after, cut, none_later⟩)

end UnitCatalogue
