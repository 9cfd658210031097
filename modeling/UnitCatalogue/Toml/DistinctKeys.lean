import UnitCatalogue.Toml.Document

/-!
# No key is defined twice

However a document is put together, by headers, by dotted keys or in braces, no table in it has a
key twice, at any depth. So what a document has under a key is one value, wherever it stands, and
the reading of documents is a parser.
-/

namespace UnitCatalogue.Toml

/-- The change makes distinct keys out of distinct keys. -/
def KeepsDistinct (change : Fields → Option Fields) : Prop :=
  ∀ fields fields', fields.KeysDistinct → change fields = some fields' → fields'.KeysDistinct

namespace Fields

theorem keysDistinct_nil : KeysDistinct [] := ⟨List.nodup_nil, nofun⟩

theorem KeysDistinct.table {fields : Fields} (distinct : fields.KeysDistinct) (origin : Origin) :
    (Value.table origin fields).KeysDistinct := .table distinct.nodup distinct.values

theorem keysDistinct_of_table {origin : Origin} {fields : Fields}
    (distinct : (Value.table origin fields).KeysDistinct) : fields.KeysDistinct := by
  cases distinct with
  | table nodup values => exact ⟨nodup, values⟩

theorem lookup_eq_none_iff {fields : Fields} {key : String} :
    fields.lookup key = none ↔ ∀ value, (key, value) ∉ fields := by
  rw [List.lookup_eq_none_iff]
  constructor
  · intro others value member
    simpa using others _ member
  · rintro absent ⟨k, value⟩ member
    rw [bne_iff_ne]
    rintro rfl
    exact absent value member

theorem KeysDistinct.lookup_eq_some_iff {fields : Fields} (distinct : fields.KeysDistinct)
    {key : String} {value : Value} : fields.lookup key = some value ↔ (key, value) ∈ fields := by
  have nodup := distinct.nodup
  clear distinct
  induction fields with
  | nil => simp
  | cons field rest ih =>
    obtain ⟨k, first⟩ := field
    obtain ⟨absent, nodup⟩ := List.nodup_cons.mp nodup
    rw [List.lookup_cons, List.mem_cons, Prod.mk.injEq]
    by_cases same : key = k
    · subst same
      have only : (key, value) ∉ rest := fun member =>
        absent (List.mem_map.mpr ⟨(key, value), member, rfl⟩)
      simp [only, eq_comm]
    · simp [beq_false_of_ne same, same, ih nodup]

theorem KeysDistinct.eq_of_mem {fields : Fields} (distinct : fields.KeysDistinct) {key : String}
    {value other : Value} (first : (key, value) ∈ fields) (second : (key, other) ∈ fields) :
    value = other := by
  rw [← distinct.lookup_eq_some_iff] at first second
  exact Option.some.inj (first.symm.trans second)

section Alter

variable {key : String} {change : Option Value → Option Value} {fields fields' : Fields}

theorem keys_alter? (altered : fields.alter? key change = some fields') :
    fields'.map Prod.fst = fields.map Prod.fst ∨
      key ∉ fields.map Prod.fst ∧ fields'.map Prod.fst = fields.map Prod.fst ++ [key] := by
  induction fields generalizing fields' with
  | nil =>
    obtain ⟨value, _, rfl⟩ := Option.map_eq_some_iff.mp altered
    exact Or.inr ⟨List.not_mem_nil, rfl⟩
  | cons field rest ih =>
    obtain ⟨k, value⟩ := field
    rw [alter?] at altered
    split at altered
    · obtain ⟨value', _, rfl⟩ := Option.map_eq_some_iff.mp altered
      exact Or.inl rfl
    · next other =>
      obtain ⟨rest', altered_rest, rfl⟩ := Option.map_eq_some_iff.mp altered
      rcases ih altered_rest with same | ⟨absent, added⟩
      · exact Or.inl (congrArg (k :: ·) same)
      · refine Or.inr ⟨?_, congrArg (k :: ·) added⟩
        rw [List.map_cons, List.mem_cons, not_or]
        exact ⟨Ne.symm other, absent⟩

/-- A field of the changed list is an old one, or what the change makes of the value that stood
under the key, if any did. -/
theorem mem_alter? (altered : fields.alter? key change = some fields') {field : String × Value}
    (member : field ∈ fields') : field ∈ fields ∨ ∃ old,
      (∀ value, old = some value → (key, value) ∈ fields) ∧ change old = some field.2 := by
  induction fields generalizing fields' with
  | nil =>
    obtain ⟨value, made, rfl⟩ := Option.map_eq_some_iff.mp altered
    obtain rfl := List.mem_singleton.mp member
    exact Or.inr ⟨none, nofun, made⟩
  | cons first rest ih =>
    obtain ⟨k, value⟩ := first
    rw [alter?] at altered
    split at altered
    · next same =>
      subst same
      obtain ⟨value', made, rfl⟩ := Option.map_eq_some_iff.mp altered
      rcases List.mem_cons.mp member with rfl | later
      · refine Or.inr ⟨some value, ?_, made⟩
        rintro _ ⟨⟩
        exact List.mem_cons_self
      · exact Or.inl (List.mem_cons_of_mem _ later)
    · obtain ⟨rest', altered_rest, rfl⟩ := Option.map_eq_some_iff.mp altered
      rcases List.mem_cons.mp member with rfl | later
      · exact Or.inl List.mem_cons_self
      · rcases ih altered_rest later with kept | ⟨old, found, made⟩
        · exact Or.inl (List.mem_cons_of_mem _ kept)
        · exact Or.inr ⟨old, fun value is_old => List.mem_cons_of_mem _ (found value is_old), made⟩

theorem KeysDistinct.alter? (distinct : fields.KeysDistinct)
    (keeps : ∀ old value, (∀ v, old = some v → v.KeysDistinct) → change old = some value →
      value.KeysDistinct)
    (altered : fields.alter? key change = some fields') : fields'.KeysDistinct where
  nodup := by
    rcases keys_alter? altered with same | ⟨absent, added⟩
    · rw [same]
      exact distinct.nodup
    · rw [added, List.nodup_append]
      refine ⟨distinct.nodup, List.pairwise_singleton _ key, ?_⟩
      rintro k member _ added rfl
      exact absent (List.mem_singleton.mp added ▸ member)
  values field member := by
    rcases mem_alter? altered member with kept | ⟨old, found, made⟩
    · exact distinct.values field kept
    · exact keeps old field.2 (fun v is_old => distinct.values _ (found v is_old)) made

end Alter

end Fields

theorem keysDistinct_alterLast? {change : Fields → Option Fields} (keeps : KeepsDistinct change)
    {items items' : List Value} (distinct : ∀ item ∈ items, item.KeysDistinct)
    (altered : alterLast? change items = some items') : ∀ item ∈ items', item.KeysDistinct := by
  fun_induction alterLast? change items generalizing items' with
  | case1 => cases altered
  | case2 origin fields =>
    obtain ⟨fields', changed, rfl⟩ := Option.map_eq_some_iff.mp altered
    have before := Fields.keysDistinct_of_table (distinct _ (List.mem_singleton_self _))
    rw [List.forall_mem_singleton]
    exact (keeps fields fields' before changed).table origin
  | case3 => cases altered
  | case4 first rest _ _ ih =>
    obtain ⟨rest', altered_rest, rfl⟩ := Option.map_eq_some_iff.mp altered
    rw [List.forall_mem_cons] at distinct ⊢
    exact ⟨distinct.1, ih distinct.2 altered_rest⟩

section KeepsDistinct

variable {change : Fields → Option Fields} {value : Value}

theorem KeepsDistinct.map_table (keeps : KeepsDistinct change) {fields : Fields}
    (distinct : fields.KeysDistinct) {origin : Origin}
    (made : (change fields).map (.table origin) = some value) : value.KeysDistinct := by
  obtain ⟨fields', changed, rfl⟩ := Option.map_eq_some_iff.mp made
  exact (keeps fields fields' distinct changed).table origin

theorem KeepsDistinct.map_tables (keeps : KeepsDistinct change) {items : List Value}
    (distinct : (Value.tables items).KeysDistinct)
    (made : (alterLast? change items).map .tables = some value) : value.KeysDistinct := by
  obtain ⟨items', altered, rfl⟩ := Option.map_eq_some_iff.mp made
  cases distinct with
  | tables items_distinct => exact .tables (keysDistinct_alterLast? keeps items_distinct altered)

end KeepsDistinct

namespace Fields

theorem keepsDistinct_add? (key : String) {value : Value} (distinct : value.KeysDistinct) :
    KeepsDistinct (add? key value) := by
  intro fields fields' before added
  refine before.alter? ?_ added
  rintro (_ | old) value' _ made
  · obtain rfl := Option.some.inj made
    exact distinct
  · cases made

theorem keepsDistinct_addDotted? (path : List String) (last : String) {value : Value}
    (distinct : value.KeysDistinct) : KeepsDistinct (addDotted? path last value) := by
  induction path with
  | nil => exact keepsDistinct_add? last distinct
  | cons part path ih =>
    intro fields fields' before added
    refine before.alter? ?_ added
    intro old value' old_distinct made
    split at made
    · exact ih.map_table keysDistinct_nil made
    · exact ih.map_table (keysDistinct_of_table (old_distinct _ rfl)) made
    · split at made
      · cases made
      · exact ih.map_table (keysDistinct_of_table (old_distinct _ rfl)) made
    · split at made
      · cases made
      · exact ih.map_tables (old_distinct _ rfl) made
    · cases made

theorem keepsDistinct_within? (path : List String) {change : Fields → Option Fields}
    (keeps : KeepsDistinct change) : KeepsDistinct (within? path change) := by
  induction path with
  | nil => exact keeps
  | cons part path ih =>
    intro fields fields' before changed
    refine before.alter? ?_ changed
    intro old value' old_distinct made
    split at made
    · exact ih.map_table keysDistinct_nil made
    · cases made
    · exact ih.map_table (keysDistinct_of_table (old_distinct _ rfl)) made
    · exact ih.map_tables (old_distinct _ rfl) made
    · cases made

theorem keepsDistinct_openTable? (key : String) : KeepsDistinct (openTable? key) := by
  intro fields fields' before opened
  refine before.alter? ?_ opened
  intro old value' old_distinct made
  split at made
  · obtain rfl := Option.some.inj made
    exact keysDistinct_nil.table .header
  · obtain rfl := Option.some.inj made
    exact (keysDistinct_of_table (old_distinct _ rfl)).table .header
  · cases made

theorem keepsDistinct_openNextTable? (key : String) : KeepsDistinct (openNextTable? key) := by
  intro fields fields' before opened
  refine before.alter? ?_ opened
  intro old value' old_distinct made
  have opened_table := keysDistinct_nil.table .header
  split at made
  · obtain rfl := Option.some.inj made
    exact .tables (List.forall_mem_singleton.mpr opened_table)
  · next items =>
    obtain rfl := Option.some.inj made
    cases old_distinct _ rfl with
    | tables items_distinct =>
      refine .tables ?_
      rw [List.forall_mem_append, List.forall_mem_singleton]
      exact ⟨items_distinct, opened_table⟩
  · cases made

end Fields

/-- Whatever the reader gives has the property. -/
def Yields {α : Type} (reader : Reader α) (property : α → Prop) : Prop :=
  ∀ text result rest, reader text = some (result, rest) → property result

section Reading

variable {item : Reader Value}

theorem yields_items (distinct : Yields item Value.KeysDistinct) (limit : Nat) :
    Yields (items item limit) fun values => ∀ value ∈ values, value.KeysDistinct := by
  induction limit with
  | zero => nofun
  | succ limit ih =>
    intro text values rest read
    rw [items] at read
    split at read
    · obtain ⟨rfl, -⟩ := Prod.mk.inj (Option.some.inj read)
      exact List.forall_mem_nil _
    · obtain ⟨⟨value, after⟩, first, read⟩ := Option.bind_eq_some_iff.mp read
      have value_distinct := distinct _ _ _ first
      dsimp only at read
      split at read
      · obtain ⟨⟨more, _⟩, later, read⟩ := Option.bind_eq_some_iff.mp read
        obtain ⟨rfl, -⟩ := Prod.mk.inj (Option.some.inj read)
        exact List.forall_mem_cons.mpr ⟨value_distinct, ih _ _ _ later⟩
      · obtain ⟨rfl, -⟩ := Prod.mk.inj (Option.some.inj read)
        exact List.forall_mem_singleton.mpr value_distinct
      · cases read

theorem yields_assignment (skip : List Char → List Char)
    (distinct : Yields item Value.KeysDistinct) :
    Yields (assignment skip item) fun assigned => assigned.2.KeysDistinct := by
  intro text assigned rest read
  obtain ⟨⟨key, _⟩, _, read⟩ := Option.bind_eq_some_iff.mp read
  obtain ⟨_, _, read⟩ := Option.bind_eq_some_iff.mp read
  obtain ⟨⟨value, _⟩, value_read, read⟩ := Option.bind_eq_some_iff.mp read
  obtain ⟨rfl, -⟩ := Prod.mk.inj (Option.some.inj read)
  exact distinct _ _ _ value_read

theorem yields_assignments (distinct : Yields item Value.KeysDistinct) (limit : Nat)
    {fields : Fields} (before : fields.KeysDistinct) :
    Yields (assignments item limit fields) Fields.KeysDistinct := by
  induction limit generalizing fields with
  | zero => nofun
  | succ limit ih =>
    intro text fields' rest read
    rw [assignments] at read
    split at read
    · obtain ⟨rfl, -⟩ := Prod.mk.inj (Option.some.inj read)
      exact before
    · obtain ⟨⟨⟨key, value⟩, _⟩, assigned, read⟩ := Option.bind_eq_some_iff.mp read
      obtain ⟨added, is_added, read⟩ := Option.bind_eq_some_iff.mp read
      have value_distinct := yields_assignment skipSpace distinct _ _ _ assigned
      have added_distinct :=
        Fields.keepsDistinct_addDotted? key.path key.last value_distinct _ _ before is_added
      split at read
      · exact ih added_distinct _ _ _ read
      · obtain ⟨rfl, -⟩ := Prod.mk.inj (Option.some.inj read)
        exact added_distinct
      · cases read

theorem yields_plainValue : Yields plainValue Value.KeysDistinct := by
  intro text value rest read
  rw [plainValue] at read
  split at read
  all_goals
    obtain ⟨_, _, made⟩ := Option.map_eq_some_iff.mp read
    obtain ⟨rfl, -⟩ := Prod.mk.inj made
    exact .scalar

theorem yields_value (depth : Nat) : Yields (value depth) Value.KeysDistinct := by
  induction depth with
  | zero => exact yields_plainValue
  | succ depth ih =>
    intro text result rest read
    unfold value at read
    split at read
    · obtain ⟨⟨values, _⟩, items_read, made⟩ := Option.map_eq_some_iff.mp read
      obtain ⟨rfl, -⟩ := Prod.mk.inj made
      exact .array (yields_items ih _ _ _ _ items_read)
    · obtain ⟨⟨fields, _⟩, fields_read, made⟩ := Option.map_eq_some_iff.mp read
      obtain ⟨rfl, -⟩ := Prod.mk.inj made
      exact (yields_assignments ih _ Fields.keysDistinct_nil _ _ _ fields_read).table .braces
    · exact yields_plainValue _ _ _ read

end Reading

theorem yields_statement {draft : Draft} (before : draft.fields.KeysDistinct) :
    Yields (statement draft) fun after => after.fields.KeysDistinct := by
  intro text after rest read
  unfold statement at read
  split at read
  · obtain ⟨⟨key, _⟩, _, read⟩ := Option.bind_eq_some_iff.mp read
    obtain ⟨_, _, read⟩ := Option.bind_eq_some_iff.mp read
    obtain ⟨_, _, read⟩ := Option.bind_eq_some_iff.mp read
    obtain ⟨fields, changed, read⟩ := Option.bind_eq_some_iff.mp read
    obtain ⟨rfl, -⟩ := Prod.mk.inj (Option.some.inj read)
    have keeps := Fields.keepsDistinct_openNextTable? key.last
    exact Fields.keepsDistinct_within? key.path keeps _ _ before changed
  · obtain ⟨⟨key, _⟩, _, read⟩ := Option.bind_eq_some_iff.mp read
    obtain ⟨_, _, read⟩ := Option.bind_eq_some_iff.mp read
    obtain ⟨fields, changed, read⟩ := Option.bind_eq_some_iff.mp read
    obtain ⟨rfl, -⟩ := Prod.mk.inj (Option.some.inj read)
    have keeps := Fields.keepsDistinct_openTable? key.last
    exact Fields.keepsDistinct_within? key.path keeps _ _ before changed
  · obtain ⟨⟨⟨key, value⟩, _⟩, assigned, read⟩ := Option.bind_eq_some_iff.mp read
    obtain ⟨fields, changed, read⟩ := Option.bind_eq_some_iff.mp read
    obtain ⟨rfl, -⟩ := Prod.mk.inj (Option.some.inj read)
    have value_distinct := yields_assignment skipBlanks (yields_value maxDepth) _ _ _ assigned
    have keeps := Fields.keepsDistinct_addDotted? key.path key.last value_distinct
    exact Fields.keepsDistinct_within? draft.header keeps _ _ before changed

theorem keysDistinct_statements {limit : Nat} {draft after : Draft} {text : List Char}
    (before : draft.fields.KeysDistinct) (read : statements limit draft text = some after) :
    after.fields.KeysDistinct := by
  induction limit generalizing draft text with
  | zero =>
    rw [statements] at read
    split at read
    · obtain rfl := Option.some.inj read
      exact before
    · cases read
  | succ limit ih =>
    rw [statements] at read
    split at read
    · obtain rfl := Option.some.inj read
      exact before
    · split at read
      · exact ih before read
      · obtain ⟨⟨next, _⟩, stated, read⟩ := Option.bind_eq_some_iff.mp read
        obtain ⟨_, _, read⟩ := Option.bind_eq_some_iff.mp read
        exact ih (yields_statement before _ _ _ stated) read

/-- No table of a document has a key twice. -/
theorem keysDistinct_parse? {text : String} {document : Fields}
    (parsed : parse? text = some document) : document.KeysDistinct := by
  obtain ⟨draft, read, rfl⟩ := Option.map_eq_some_iff.mp parsed
  exact keysDistinct_statements Fields.keysDistinct_nil read

/-- The parser of this library. Of a refusal it tells no more than that there is one. -/
def standard : Parser where
  parse? := parse?
  keysDistinct := keysDistinct_parse?
  refusal _ := "TOML parse error"

end UnitCatalogue.Toml
