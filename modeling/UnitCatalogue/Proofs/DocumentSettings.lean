import UnitCatalogue.Toml.DistinctKeys
import UnitCatalogue.Proofs.ReadableNumbers

/-!
# What a document sets

The settings of a document are told by what stands under their keys, without regard to the order of
the keys and to what stands under others. Each setting is what the document says for it, or its own
default if the document says nothing.
-/

namespace UnitCatalogue.Configuration

open Toml

/-- The value is an array with these items, in brackets or grown by headers. -/
inductive HasItems : Value → List Value → Prop where
  | brackets {items : List Value} : HasItems (.array items) items
  | headers {items : List Value} : HasItems (.tables items) items

/-- A field of a record: what a table has under its key, or an array at its place. -/
inductive HasPart (key : String) (place : Nat) : Value → Value → Prop where
  | keyed {origin : Origin} {fields : List (String × Value)} {part : Value} :
      (key, part) ∈ fields → HasPart key place (.table origin fields) part
  | placed {record part : Value} {items : List Value} :
      HasItems record items → items[place]? = some part → HasPart key place record part

def GivesText (value : Value) (text : String) : Prop := value = .scalar (.text text)

/-- The record has both fields of an alias, and they are texts. -/
structure GivesAlias (record : Value) (given : Alias) : Prop where
  name : HasPart "alias" 0 record (.scalar (.text given.name))
  target : HasPart "target" 1 record (.scalar (.text given.target))

theorem givesAlias_iff {record : Value} {given : Alias} : GivesAlias record given ↔
    HasPart "alias" 0 record (.scalar (.text given.name)) ∧
      HasPart "target" 1 record (.scalar (.text given.target)) :=
  ⟨fun ⟨name, target⟩ => ⟨name, target⟩, fun ⟨name, target⟩ => ⟨name, target⟩⟩

inductive GivesAliases : Value → List Alias → Prop where
  | records {value : Value} {records : List Value} {aliases : List Alias} :
      HasItems value records → List.Forall₂ GivesAlias records aliases → GivesAliases value aliases

/-- A setting is what the part gives that there is for it, or its default if there is none. -/
inductive Sets {α : Type} (has : Value → Prop) (gives : Value → α → Prop) (default : α) :
    α → Prop where
  | present {part : Value} {setting : α} :
      has part → gives part setting → Sets has gives default setting
  | absent : (∀ part, ¬has part) → Sets has gives default default

/-- The three labels, each set by its own part. -/
structure SetsLabels (has : String → Nat → Value → Prop) (labels : Labels) : Prop where
  name : Sets (has "name" 0) GivesText "Name" labels.name
  code : Sets (has "code" 1) GivesText "Common\nCode" labels.code
  suffix : Sets (has "suffix" 2) GivesText "Symbol" labels.suffix

section Sets

variable {α : Type} {has : Value → Prop} {gives : Value → α → Prop} {default setting : α}

theorem sets_iff_of_present {part : Value} (present : has part)
    (only : ∀ other, has other → other = part) :
    Sets has gives default setting ↔ gives part setting := by
  constructor
  · rintro (⟨other, given⟩ | absent)
    · rwa [← only _ other]
    · exact absurd present (absent part)
  · exact .present present

theorem sets_iff_of_absent (absent : ∀ part, ¬has part) :
    Sets has gives default setting ↔ setting = default := by
  constructor
  · rintro (⟨present, _⟩ | _)
    · exact absurd present (absent _)
    · rfl
  · rintro rfl
    exact .absent absent

theorem exists_sets_iff (only : ∀ part other, has part → has other → other = part) :
    (∃ setting, Sets has gives default setting) ↔
      ∀ part, has part → ∃ setting, gives part setting := by
  constructor
  · rintro ⟨setting, sets⟩ part present
    exact ⟨setting, (sets_iff_of_present present (only part · present)).mp sets⟩
  · intro given
    by_cases some_part : ∃ part, has part
    · obtain ⟨part, present⟩ := some_part
      obtain ⟨setting, gives⟩ := given part present
      exact ⟨setting, .present present gives⟩
    · exact ⟨default, .absent (not_exists.mp some_part)⟩

theorem sets_and_iff {allowed : Value → Prop}
    (only : ∀ part other, has part → has other → other = part) :
    Sets has (fun part setting => allowed part ∧ gives part setting) default setting ↔
      (∀ part, has part → allowed part) ∧ Sets has gives default setting := by
  constructor
  · rintro (⟨present, fine, given⟩ | absent)
    · refine ⟨fun other other_present => ?_, .present present given⟩
      rwa [only _ other present other_present]
    · exact ⟨fun part present => absurd present (absent part), .absent absent⟩
  · rintro ⟨fine, ⟨present, given⟩ | absent⟩
    · exact .present present ⟨fine _ present, given⟩
    · exact .absent absent

/-- What is read under a key of a table, with a default for the absent key. -/
theorem lookup_elim_eq_some_iff {fields : Fields} (distinct : fields.KeysDistinct) (key : String)
    {read : Value → Option α}
    (reads : ∀ value, (key, value) ∈ fields →
      ∀ setting, read value = some setting ↔ gives value setting) :
    (fields.lookup key).elim (some default) read = some setting ↔
      Sets (fun value => (key, value) ∈ fields) gives default setting := by
  cases found : fields.lookup key with
  | none =>
    rw [sets_iff_of_absent (Fields.lookup_eq_none_iff.mp found), Option.elim_none, Option.some_inj,
      eq_comm]
  | some value =>
    have present := distinct.lookup_eq_some_iff.mp found
    rw [sets_iff_of_present present fun other member => distinct.eq_of_mem member present,
      Option.elim_some, reads value present setting]

end Sets

theorem textOf?_eq_some_iff {value : Value} {text : String} :
    textOf? value = some text ↔ GivesText value text := by
  constructor
  · intro read
    unfold textOf? at read
    split at read
    · obtain rfl := Option.some.inj read
      rfl
    · cases read
  · rintro rfl
    rfl

theorem textOr_eq_some_iff {fields : Fields} (distinct : fields.KeysDistinct)
    {key default text : String} : textOr fields key default = some text ↔
      Sets (fun value => (key, value) ∈ fields) GivesText default text := by
  rw [← lookup_elim_eq_some_iff distinct key fun _ _ _ => textOf?_eq_some_iff, textOr]
  cases fields.lookup key with
  | none => rfl
  | some value => rfl

theorem itemOr_eq_some_iff {items : List Value} {place : Nat} {default text : String} :
    itemOr items place default = some text ↔
      Sets (fun part => items[place]? = some part) GivesText default text := by
  obtain found | ⟨part, found⟩ := Option.eq_none_or_eq_some items[place]?
  · have absent : ∀ part, items[place]? ≠ some part := by simp [found]
    have read : itemOr items place default = some default := by rw [itemOr, found]
    rw [read, sets_iff_of_absent absent, Option.some_inj, eq_comm]
  · have only : ∀ other, items[place]? = some other → other = part := fun other same =>
      Option.some.inj (same.symm.trans found)
    have read : itemOr items place default = textOf? part := by rw [itemOr, found]
    rw [read, textOf?_eq_some_iff, sets_iff_of_present found only]

section Parts

variable {key : String} {place : Nat} {value part other : Value}

theorem hasPart_table_iff {origin : Origin} {fields : List (String × Value)} :
    HasPart key place (.table origin fields) part ↔ (key, part) ∈ fields := by
  constructor
  · rintro (member | ⟨⟨⟩, _⟩)
    exact member
  · exact .keyed

theorem HasItems.unique {items others : List Value} (first : HasItems value items)
    (second : HasItems value others) : others = items := by
  cases first with
  | brackets => cases second; rfl
  | headers => cases second; rfl

theorem HasItems.hasPart_iff {items : List Value} (has_items : HasItems value items) :
    HasPart key place value part ↔ items[place]? = some part := by
  constructor
  · rintro (_ | ⟨has_others, found⟩)
    · cases has_items
    · rwa [← has_items.unique has_others]
  · exact .placed has_items

theorem not_hasPart_scalar {content : Scalar} : ¬HasPart key place (.scalar content) part := by
  rintro (_ | ⟨⟨⟩, _⟩)

theorem HasPart.unique (distinct : value.KeysDistinct) (first : HasPart key place value part)
    (second : HasPart key place value other) : other = part := by
  cases first with
  | keyed member =>
    rw [hasPart_table_iff] at second
    exact (Fields.keysDistinct_of_table distinct).eq_of_mem second member
  | placed has_items found =>
    rw [has_items.hasPart_iff, found] at second
    exact (Option.some.inj second).symm

end Parts

/-- A value that labels can be read from: a table, an array in field order, or a point in time,
which counts as a table without any of the fields. -/
inductive IsLabelSource : Value → Prop where
  | table {origin : Origin} {fields : List (String × Value)} :
      IsLabelSource (.table origin fields)
  | array {value : Value} {items : List Value} : HasItems value items → IsLabelSource value
  | moment : IsLabelSource (.scalar .moment)

/-- If the value is a table, every number under other keys is readable. -/
def OthersReadableIn (known : List String) (value : Value) : Prop :=
  ∀ origin fields, value = .table origin fields → OthersReadable known fields

theorem othersReadableIn_table_iff {known : List String} {origin : Origin}
    {fields : List (String × Value)} :
    OthersReadableIn known (.table origin fields) ↔ OthersReadable known fields := by
  constructor
  · intro readable
    exact readable origin fields rfl
  · rintro readable _ _ ⟨⟩
    exact readable

theorem HasItems.othersReadableIn {value : Value} {items : List Value}
    (has_items : HasItems value items) (known : List String) : OthersReadableIn known value := by
  rintro origin fields rfl
  cases has_items

theorem othersReadableIn_scalar (known : List String) (content : Scalar) :
    OthersReadableIn known (.scalar content) := nofun

section Labels

variable {labels : Labels}

theorem SetsLabels.congr {has other : String → Nat → Value → Prop}
    (same : ∀ key place part, has key place part ↔ other key place part) :
    SetsLabels has labels ↔ SetsLabels other labels := by
  have equal : has = other := by
    funext key place part
    exact propext (same key place part)
  rw [equal]

theorem setsLabels_iff_of_absent {has : String → Nat → Value → Prop}
    (absent : ∀ key place part, ¬has key place part) : SetsLabels has labels ↔ labels = {} := by
  constructor
  · rintro ⟨name, code, suffix⟩
    rw [sets_iff_of_absent (absent _ _)] at name code suffix
    cases labels
    rw [Labels.mk.injEq]
    exact ⟨name, code, suffix⟩
  · rintro rfl
    exact ⟨.absent (absent _ _), .absent (absent _ _), .absent (absent _ _)⟩

theorem labelsOfFields_eq_some_iff {fields : Fields} (distinct : fields.KeysDistinct) :
    labelsOfFields fields = some labels ↔ OthersReadable ["name", "code", "suffix"] fields ∧
      SetsLabels (fun key _ part => (key, part) ∈ fields) labels := by
  simp only [labelsOfFields, Option.bind_eq_bind, Option.bind_eq_some_iff, Option.pure_def,
    Option.some.injEq, textOr_eq_some_iff distinct, Option.guard_eq_some', exists_const,
    othersAreReadable_iff]
  constructor
  · rintro ⟨readable, name, sets_name, code, sets_code, suffix, sets_suffix, rfl⟩
    exact ⟨readable, sets_name, sets_code, sets_suffix⟩
  · rintro ⟨readable, sets_name, sets_code, sets_suffix⟩
    exact ⟨readable, _, sets_name, _, sets_code, _, sets_suffix, rfl⟩

theorem labelsOfItems_eq_some_iff {items : List Value} : labelsOfItems items = some labels ↔
    SetsLabels (fun _ place part => items[place]? = some part) labels := by
  simp only [labelsOfItems, Option.bind_eq_bind, Option.bind_eq_some_iff, Option.pure_def,
    Option.some.injEq, itemOr_eq_some_iff]
  constructor
  · rintro ⟨name, sets_name, code, sets_code, suffix, sets_suffix, rfl⟩
    exact ⟨sets_name, sets_code, sets_suffix⟩
  · rintro ⟨sets_name, sets_code, sets_suffix⟩
    exact ⟨_, sets_name, _, sets_code, _, sets_suffix, rfl⟩

theorem HasItems.labelsOf?_eq_some_iff {value : Value} {items : List Value}
    (has_items : HasItems value items) : labelsOf? value = some labels ↔
      SetsLabels (fun key place part => HasPart key place value part) labels := by
  have read : labelsOf? value = labelsOfItems items := by
    cases has_items with
    | brackets => rfl
    | headers => rfl
  rw [read, labelsOfItems_eq_some_iff]
  exact SetsLabels.congr fun key place part => has_items.hasPart_iff.symm

theorem labelsOf?_eq_some_iff {value : Value} (distinct : value.KeysDistinct) :
    labelsOf? value = some labels ↔ IsLabelSource value ∧
      OthersReadableIn ["name", "code", "suffix"] value ∧
      SetsLabels (fun key place part => HasPart key place value part) labels := by
  have of_items {items : List Value} (has_items : HasItems value items) :
      labelsOf? value = some labels ↔ IsLabelSource value ∧
        OthersReadableIn ["name", "code", "suffix"] value ∧
        SetsLabels (fun key place part => HasPart key place value part) labels := by
    rw [has_items.labelsOf?_eq_some_iff]
    simp only [IsLabelSource.array has_items, has_items.othersReadableIn, true_and]
  cases value with
  | table origin fields =>
    simp only [labelsOf?, labelsOfFields_eq_some_iff (Fields.keysDistinct_of_table distinct),
      IsLabelSource.table, othersReadableIn_table_iff, hasPart_table_iff, true_and]
  | array items => exact of_items .brackets
  | tables items => exact of_items .headers
  | scalar content =>
    rw [setsLabels_iff_of_absent fun key place part => not_hasPart_scalar]
    simp only [othersReadableIn_scalar, true_and]
    constructor
    · intro read
      cases content with
      | moment => exact ⟨.moment, (Option.some.inj read).symm⟩
      | _ => cases read
    · rintro ⟨_ | ⟨⟨⟩⟩ | _, rfl⟩
      rfl

end Labels

theorem lookup_bind_textOf?_eq_some_iff {fields : Fields} (distinct : fields.KeysDistinct)
    {key text : String} : (fields.lookup key).bind textOf? = some text ↔
      (key, .scalar (.text text)) ∈ fields := by
  simp only [Option.bind_eq_some_iff, textOf?_eq_some_iff, GivesText, exists_eq_right,
    distinct.lookup_eq_some_iff]

theorem aliasOfItems_eq_some_iff {items : List Value} {given : Alias} :
    aliasOfItems items = some given ↔ items[0]? = some (.scalar (.text given.name)) ∧
      items[1]? = some (.scalar (.text given.target)) := by
  obtain _ | ⟨name, _ | ⟨target, rest⟩⟩ := items
  · simp [aliasOfItems]
  · simp [aliasOfItems]
  · obtain ⟨given_name, given_target⟩ := given
    simp [aliasOfItems, Option.bind_eq_some_iff, textOf?_eq_some_iff, GivesText]

theorem HasItems.aliasOf?_eq_some_iff {record : Value} {items : List Value}
    (has_items : HasItems record items) {given : Alias} :
    aliasOf? record = some given ↔ GivesAlias record given := by
  have read : aliasOf? record = aliasOfItems items := by
    cases has_items with
    | brackets => rfl
    | headers => rfl
  rw [read, aliasOfItems_eq_some_iff, givesAlias_iff, has_items.hasPart_iff, has_items.hasPart_iff]

theorem aliasOf?_eq_some_iff {record : Value} (distinct : record.KeysDistinct) {given : Alias} :
    aliasOf? record = some given ↔
      OthersReadableIn ["alias", "target"] record ∧ GivesAlias record given := by
  cases record with
  | table origin fields =>
    have fields_distinct := Fields.keysDistinct_of_table distinct
    rw [othersReadableIn_table_iff, givesAlias_iff, hasPart_table_iff, hasPart_table_iff,
      ← lookup_bind_textOf?_eq_some_iff fields_distinct,
      ← lookup_bind_textOf?_eq_some_iff fields_distinct, ← othersAreReadable_iff, aliasOf?]
    generalize (fields.lookup "alias").bind textOf? = name
    generalize (fields.lookup "target").bind textOf? = target
    obtain ⟨given_name, given_target⟩ := given
    simp [Option.bind_eq_some_iff, Option.guard_eq_some']
  | array items =>
    have has_items : HasItems (.array items) items := .brackets
    rw [has_items.aliasOf?_eq_some_iff, and_iff_right (has_items.othersReadableIn _)]
  | tables items =>
    have has_items : HasItems (.tables items) items := .headers
    rw [has_items.aliasOf?_eq_some_iff, and_iff_right (has_items.othersReadableIn _)]
  | scalar content =>
    constructor
    · nofun
    · rintro ⟨_, name, _⟩
      exact absurd name not_hasPart_scalar

/-- No table among the items has a number under an ignored key that is not readable. -/
def RecordsReadable (value : Value) : Prop :=
  ∀ records, HasItems value records → ∀ record ∈ records,
    OthersReadableIn ["alias", "target"] record

theorem HasItems.recordsReadable_iff {value : Value} {records : List Value}
    (has_items : HasItems value records) : RecordsReadable value ↔
      ∀ record ∈ records, OthersReadableIn ["alias", "target"] record := by
  constructor
  · intro readable
    exact readable records has_items
  · intro readable others has_others
    rwa [has_items.unique has_others]

theorem HasItems.givesAliases_iff {value : Value} {records : List Value}
    (has_items : HasItems value records) {aliases : List Alias} :
    GivesAliases value aliases ↔ List.Forall₂ GivesAlias records aliases := by
  constructor
  · rintro ⟨has_others, given⟩
    rwa [← has_items.unique has_others]
  · exact .records has_items

theorem HasItems.keysDistinct {value : Value} {items : List Value}
    (has_items : HasItems value items) (distinct : value.KeysDistinct) :
    ∀ item ∈ items, item.KeysDistinct := by
  cases has_items with
  | brackets => cases distinct; assumption
  | headers => cases distinct; assumption

theorem mapM_eq_some_iff {α β : Type} {read : α → Option β} {gives : α → β → Prop} {list : List α}
    (reads : ∀ item ∈ list, ∀ made, read item = some made ↔ gives item made) {made : List β} :
    list.mapM read = some made ↔ List.Forall₂ gives list made := by
  induction list generalizing made with
  | nil => simp [eq_comm]
  | cons first rest ih =>
    obtain ⟨reads_first, reads_rest⟩ := List.forall_mem_cons.mp reads
    simp only [List.mapM_cons, Option.bind_eq_bind, Option.bind_eq_some_iff, Option.pure_def,
      Option.some.injEq, reads_first, ih reads_rest, List.forall₂_cons_left_iff]
    -- Both sides have a head and a tail of the result; they only name them in another order.
    grind

theorem exists_forall₂_iff {α β : Type} {gives : α → β → Prop} {list : List α} :
    (∃ made, List.Forall₂ gives list made) ↔ ∀ item ∈ list, ∃ made, gives item made := by
  induction list with
  | nil => simp
  | cons first rest ih =>
    rw [List.forall_mem_cons, ← ih]
    simp only [List.forall₂_cons_left_iff]
    grind

theorem aliasesOf?_eq_some_iff {value : Value} (distinct : value.KeysDistinct)
    {aliases : List Alias} : aliasesOf? value = some aliases ↔
      RecordsReadable value ∧ GivesAliases value aliases := by
  have of_items {records : List Value} (has_items : HasItems value records) :
      records.mapM aliasOf? = some aliases ↔
        RecordsReadable value ∧ GivesAliases value aliases := by
    have reads : ∀ record ∈ records, ∀ given, aliasOf? record = some given ↔
        OthersReadableIn ["alias", "target"] record ∧ GivesAlias record given :=
      fun record member _ => aliasOf?_eq_some_iff (has_items.keysDistinct distinct record member)
    rw [mapM_eq_some_iff reads, List.forall₂_and_left, has_items.recordsReadable_iff,
      has_items.givesAliases_iff]
  cases value with
  | array records => exact of_items .brackets
  | tables records => exact of_items .headers
  | scalar content =>
    constructor
    · nofun
    · rintro ⟨_, ⟨⟨⟩, _⟩⟩
  | table origin fields =>
    constructor
    · nofun
    · rintro ⟨_, ⟨⟨⟩, _⟩⟩

end UnitCatalogue.Configuration
