import UnitCatalogue.Generation
import UnitCatalogue.Proofs.DocumentSettings

/-!
# Loading a configuration

A document lays its settings over the defaults one by one: the sheet name, each of the three labels,
and the list of aliases as a whole. It is refused exactly if a setting that it has is of the wrong
shape, or if a number that nobody asks for is not readable. A file that is no text is told apart
before anything is parsed. All this holds of every parser that leaves no key twice in a table.
-/

namespace UnitCatalogue.Configuration

open Toml Directory

/-- The document has this value for a label, in its columns. -/
def InColumns (document : Fields) (key : String) (place : Nat) (part : Value) : Prop :=
  ∃ value, ("columns", value) ∈ document ∧ HasPart key place value part

/-- The settings of the document where it has them, and the defaults elsewhere. -/
structure Overlays (document : Fields) (configuration : Configuration) : Prop where
  sheetName : Sets (fun value => ("sheet_name", value) ∈ document) GivesText
    "Annex II & Annex III" configuration.sheetName
  columns : SetsLabels (InColumns document) configuration.columns
  aliases : Sets (fun value => ("aliases", value) ∈ document) GivesAliases
    [⟨"MINUTE", "MINUTE_UNIT_OF_TIME"⟩, ⟨"SECOND", "SECOND_UNIT_OF_TIME"⟩] configuration.aliases

/-- What the document has for its settings is of the right shape. -/
structure WellShaped (document : Fields) : Prop where
  sheetName : ∀ value, ("sheet_name", value) ∈ document → ∃ text, GivesText value text
  columns : ∀ value, ("columns", value) ∈ document → IsLabelSource value
  name : ∀ part, InColumns document "name" 0 part → ∃ text, GivesText part text
  code : ∀ part, InColumns document "code" 1 part → ∃ text, GivesText part text
  suffix : ∀ part, InColumns document "suffix" 2 part → ∃ text, GivesText part text
  aliases : ∀ value, ("aliases", value) ∈ document → ∃ records, HasItems value records
  records : ∀ value records, ("aliases", value) ∈ document → HasItems value records →
    ∀ record ∈ records, ∃ given, GivesAlias record given

/-- Every number under a key that has no effect is readable. -/
structure IgnoredReadable (document : Fields) : Prop where
  others : OthersReadable ["sheet_name", "columns", "aliases"] document
  columns : ∀ value, ("columns", value) ∈ document →
    OthersReadableIn ["name", "code", "suffix"] value
  aliases : ∀ value, ("aliases", value) ∈ document → RecordsReadable value

section Document

variable {document : Fields} {configuration : Configuration}

theorem setsLabels_inColumns_iff (distinct : document.KeysDistinct) {value : Value}
    (member : ("columns", value) ∈ document) {labels : Labels} :
    SetsLabels (InColumns document) labels ↔
      SetsLabels (fun key place part => HasPart key place value part) labels := by
  refine SetsLabels.congr fun key place part => ⟨?_, fun has_part => ⟨value, member, has_part⟩⟩
  rintro ⟨other, other_member, has_part⟩
  rwa [distinct.eq_of_mem member other_member]

theorem InColumns.unique (distinct : document.KeysDistinct) {key : String} {place : Nat}
    {part other : Value} (first : InColumns document key place part)
    (second : InColumns document key place other) : other = part := by
  obtain ⟨value, member, first⟩ := first
  obtain ⟨value', member', second⟩ := second
  obtain rfl := distinct.eq_of_mem member member'
  exact first.unique (distinct.values _ member) second

theorem lookup_columns_eq_some_iff (distinct : document.KeysDistinct) {labels : Labels} :
    (document.lookup "columns").elim (some {}) labelsOf? = some labels ↔
      (∀ value, ("columns", value) ∈ document →
        IsLabelSource value ∧ OthersReadableIn ["name", "code", "suffix"] value) ∧
      SetsLabels (InColumns document) labels := by
  cases found : document.lookup "columns" with
  | none =>
    have absent := Fields.lookup_eq_none_iff.mp found
    have no_part : ∀ key place part, ¬InColumns document key place part :=
      fun key place part ⟨value, member, _⟩ => absent value member
    have vacuous : ∀ value, ("columns", value) ∈ document →
        IsLabelSource value ∧ OthersReadableIn ["name", "code", "suffix"] value :=
      fun value member => absurd member (absent value)
    rw [setsLabels_iff_of_absent no_part, and_iff_right vacuous, Option.elim_none,
      Option.some_inj, eq_comm]
  | some value =>
    have member := distinct.lookup_eq_some_iff.mp found
    rw [Option.elim_some, labelsOf?_eq_some_iff (distinct.values _ member),
      setsLabels_inColumns_iff distinct member, ← and_assoc]
    refine and_congr_left fun _ => ⟨fun shape other other_member => ?_, fun all => all value member⟩
    rwa [distinct.eq_of_mem other_member member]

theorem lookup_aliases_eq_some_iff (distinct : document.KeysDistinct) {aliases : List Alias} :
    (document.lookup "aliases").elim (some defaultAliases) aliasesOf? = some aliases ↔
      (∀ value, ("aliases", value) ∈ document → RecordsReadable value) ∧
      Sets (fun value => ("aliases", value) ∈ document) GivesAliases defaultAliases aliases := by
  have reads : ∀ value, ("aliases", value) ∈ document → ∀ aliases,
      aliasesOf? value = some aliases ↔ RecordsReadable value ∧ GivesAliases value aliases :=
    fun value member aliases => aliasesOf?_eq_some_iff (distinct.values _ member)
  rw [lookup_elim_eq_some_iff distinct "aliases" reads]
  exact sets_and_iff fun part other first second => distinct.eq_of_mem second first

theorem ofFields?_eq (document : Fields) : ofFields? document = (do
    guard (othersAreReadable ["sheet_name", "columns", "aliases"] document)
    let sheetName ← textOr document "sheet_name" ({} : Configuration).sheetName
    let columns ← (document.lookup "columns").elim (some {}) labelsOf?
    let aliases ← (document.lookup "aliases").elim (some defaultAliases) aliasesOf?
    return ⟨sheetName, columns, aliases⟩) := by
  rw [ofFields?]
  cases document.lookup "columns" with
  | none =>
    cases document.lookup "aliases" with
    | none => rfl
    | some aliases => rfl
  | some columns =>
    cases document.lookup "aliases" with
    | none => rfl
    | some aliases => rfl

/-- The shape of the columns is asked for even if they have no label to give. -/
theorem ofFields?_eq_some_iff_overlays (distinct : document.KeysDistinct) :
    ofFields? document = some configuration ↔
      (∀ value, ("columns", value) ∈ document → IsLabelSource value) ∧
      IgnoredReadable document ∧ Overlays document configuration := by
  rw [ofFields?_eq]
  simp only [Option.bind_eq_bind, Option.bind_eq_some_iff, Option.pure_def, Option.some.injEq,
    Option.guard_eq_some', exists_const, othersAreReadable_iff, textOr_eq_some_iff distinct,
    lookup_columns_eq_some_iff distinct, lookup_aliases_eq_some_iff distinct]
  constructor
  · rintro ⟨others, sheet_name, sets_sheet_name, labels, ⟨columns, sets_labels⟩, aliases,
      ⟨records, sets_aliases⟩, rfl⟩
    exact ⟨fun value member => (columns value member).1,
      ⟨others, fun value member => (columns value member).2, records⟩,
      sets_sheet_name, sets_labels, sets_aliases⟩
  · rintro ⟨columns, ⟨others, readable, records⟩, sets_sheet_name, sets_labels, sets_aliases⟩
    exact ⟨others, _, sets_sheet_name, _,
      ⟨fun value member => ⟨columns value member, readable value member⟩, sets_labels⟩, _,
      ⟨records, sets_aliases⟩, rfl⟩

theorem exists_givesAliases_iff {value : Value} : (∃ aliases, GivesAliases value aliases) ↔
    (∃ records, HasItems value records) ∧
      ∀ records, HasItems value records → ∀ record ∈ records, ∃ given, GivesAlias record given := by
  constructor
  · rintro ⟨aliases, has_items, given⟩
    refine ⟨⟨_, has_items⟩, fun others has_others => ?_⟩
    rw [has_items.unique has_others, ← exists_forall₂_iff]
    exact ⟨aliases, given⟩
  · rintro ⟨⟨records, has_items⟩, given⟩
    obtain ⟨aliases, given⟩ := exists_forall₂_iff.mpr (given records has_items)
    exact ⟨aliases, .records has_items given⟩

theorem wellShaped_iff (distinct : document.KeysDistinct) : WellShaped document ↔
    (∀ value, ("columns", value) ∈ document → IsLabelSource value) ∧
      ∃ configuration, Overlays document configuration := by
  have only_field {key : String} : ∀ part other, (key, part) ∈ document →
      (key, other) ∈ document → other = part :=
    fun part other first second => distinct.eq_of_mem second first
  have only_part {key : String} {place : Nat} : ∀ part other, InColumns document key place part →
      InColumns document key place other → other = part :=
    fun part other => InColumns.unique distinct
  constructor
  · rintro ⟨sheet_name, columns, name, code, suffix, aliases, records⟩
    obtain ⟨sheet_name, sets_sheet_name⟩ := (exists_sets_iff only_field).mpr sheet_name
    obtain ⟨name, sets_name⟩ := (exists_sets_iff only_part).mpr name
    obtain ⟨code, sets_code⟩ := (exists_sets_iff only_part).mpr code
    obtain ⟨suffix, sets_suffix⟩ := (exists_sets_iff only_part).mpr suffix
    obtain ⟨aliases, sets_aliases⟩ := (exists_sets_iff only_field).mpr fun value member =>
      exists_givesAliases_iff.mpr ⟨aliases value member, fun items => records value items member⟩
    exact ⟨columns, ⟨sheet_name, ⟨name, code, suffix⟩, aliases⟩, sets_sheet_name,
      ⟨sets_name, sets_code, sets_suffix⟩, sets_aliases⟩
  · rintro ⟨columns, configuration, sets_sheet_name, sets_labels, sets_aliases⟩
    have given_aliases := (exists_sets_iff only_field).mp ⟨_, sets_aliases⟩
    exact {
      sheetName := (exists_sets_iff only_field).mp ⟨_, sets_sheet_name⟩
      columns := columns
      name := (exists_sets_iff only_part).mp ⟨_, sets_labels.name⟩
      code := (exists_sets_iff only_part).mp ⟨_, sets_labels.code⟩
      suffix := (exists_sets_iff only_part).mp ⟨_, sets_labels.suffix⟩
      aliases := fun value member => (exists_givesAliases_iff.mp (given_aliases value member)).1
      records := fun value items member =>
        (exists_givesAliases_iff.mp (given_aliases value member)).2 items }

theorem ofFields?_eq_some_iff (distinct : document.KeysDistinct) :
    ofFields? document = some configuration ↔
      WellShaped document ∧ IgnoredReadable document ∧ Overlays document configuration := by
  rw [ofFields?_eq_some_iff_overlays distinct, wellShaped_iff distinct]
  constructor
  · rintro ⟨columns, readable, overlays⟩
    exact ⟨⟨columns, configuration, overlays⟩, readable, overlays⟩
  · rintro ⟨⟨columns, _⟩, readable, overlays⟩
    exact ⟨columns, readable, overlays⟩

theorem exists_ofFields?_eq_some_iff (distinct : document.KeysDistinct) :
    (∃ configuration, ofFields? document = some configuration) ↔
      WellShaped document ∧ IgnoredReadable document := by
  constructor
  · rintro ⟨configuration, read⟩
    obtain ⟨shaped, readable, _⟩ := (ofFields?_eq_some_iff distinct).mp read
    exact ⟨shaped, readable⟩
  · rintro ⟨shaped, readable⟩
    obtain ⟨_, configuration, overlays⟩ := (wellShaped_iff distinct).mp shaped
    exact ⟨configuration, (ofFields?_eq_some_iff distinct).mpr ⟨shaped, readable, overlays⟩⟩

end Document

section File

variable {parser : Parser} {tree : Tree} {path text : String}

/-- The file at the path holds the text, in UTF-8. -/
def HoldsText (tree : Tree) (path text : String) : Prop :=
  tree.read (Path.ofText path) = .ok text.toUTF8

theorem fromUTF8?_eq_some_iff {data : ByteArray} :
    String.fromUTF8? data = some text ↔ data = text.toUTF8 := by
  unfold String.fromUTF8?
  constructor
  · intro decoded
    split at decoded
    · obtain rfl := Option.some.inj decoded
      rfl
    · cases decoded
  · rintro rfl
    rw [String.toUTF8_eq_toByteArray, dif_pos text.isValidUTF8]
    rfl

theorem readText_eq_ok_iff :
    tree.readText (Path.ofText path) = .ok text ↔ HoldsText tree path text := by
  rw [Tree.readText, HoldsText]
  cases tree.read (Path.ofText path) with
  | error fault => simp [bind, Except.bind]
  | ok data =>
    rw [Except.ok.injEq, ← fromUTF8?_eq_some_iff]
    cases decoded : String.fromUTF8? data with
    | none => simp [bind, Except.bind, decoded]
    | some content => simp [bind, Except.bind, pure, Except.pure, decoded]

theorem loadConfiguration_unreadable_iff :
    (∃ fault, loadConfiguration parser tree path = .error (.unreadable path fault)) ↔
      ∀ text, ¬HoldsText tree path text := by
  simp only [← readText_eq_ok_iff, loadConfiguration]
  cases tree.readText (Path.ofText path) with
  | error fault => simp
  | ok text =>
    cases read : ofText? parser text with
    | none => simp [read]
    | some configuration => simp [read]

theorem loadConfiguration_of_holdsText (holds : HoldsText tree path text) :
    loadConfiguration parser tree path =
      (ofText? parser text).elim (.error (.invalid path (parser.refusal text))) .ok := by
  simp only [loadConfiguration, readText_eq_ok_iff.mpr holds]
  cases ofText? parser text with
  | none => rfl
  | some configuration => rfl

theorem loadConfiguration_eq_ok_iff (holds : HoldsText tree path text)
    {configuration : Configuration} :
    loadConfiguration parser tree path = .ok configuration ↔
      ofText? parser text = some configuration := by
  rw [loadConfiguration_of_holdsText holds]
  cases ofText? parser text with
  | none => simp
  | some read => simp

theorem loadConfiguration_invalid_iff (holds : HoldsText tree path text) :
    loadConfiguration parser tree path = .error (.invalid path (parser.refusal text)) ↔
      ∀ configuration, ofText? parser text ≠ some configuration := by
  rw [loadConfiguration_of_holdsText holds]
  cases ofText? parser text with
  | none => simp
  | some read => simp

end File

/-- A file is unreadable exactly if it holds no text, and invalid if the parser takes its text for
no document or the document is not in order. Otherwise the settings of the document overlay the
defaults. -/
theorem loading_overlays_defaults (parser : Parser) (tree : Tree) (path : String) :
    let loaded := loadConfiguration parser tree path
    ((∃ fault, loaded = .error (.unreadable path fault)) ↔ ∀ text, ¬HoldsText tree path text) ∧
    (∀ text, HoldsText tree path text → parser.parse? text = none →
      loaded = .error (.invalid path (parser.refusal text))) ∧
    ∀ text document, HoldsText tree path text → parser.parse? text = some document →
      document.KeysDistinct ∧
      ((∃ configuration, loaded = .ok configuration) ↔
        WellShaped document ∧ IgnoredReadable document) ∧
      (∀ configuration, loaded = .ok configuration ↔
        WellShaped document ∧ IgnoredReadable document ∧ Overlays document configuration) ∧
      (loaded = .error (.invalid path (parser.refusal text)) ↔
        ¬(WellShaped document ∧ IgnoredReadable document)) := by
  intro loaded
  refine ⟨loadConfiguration_unreadable_iff, fun text holds unparsed => ?_,
    fun text document holds parsed => ?_⟩
  · have unread : ofText? parser text = none := by rw [ofText?, unparsed, Option.bind_none]
    rw [loadConfiguration_invalid_iff holds, unread]
    nofun
  · have distinct := parser.keysDistinct parsed
    have read : ofText? parser text = ofFields? document := by
      rw [ofText?, parsed, Option.bind_some]
    simp only [loaded, loadConfiguration_eq_ok_iff holds, loadConfiguration_invalid_iff holds, read]
    refine ⟨distinct, exists_ofFields?_eq_some_iff distinct,
      fun configuration => ofFields?_eq_some_iff distinct, ?_⟩
    rw [← exists_ofFields?_eq_some_iff distinct, not_exists]

/-- Settings files side by side: each is of a kind of its own. -/
def settingsTree : Tree :=
  ⟨["work"], [(["work"], .directory),
    (["work", "partial"], .file "aliases = []\n[columns]\nunknown = 1\ncode = \"Code\"\n".toUTF8),
    (["work", "broken"], .file "columns =\n".toUTF8),
    (["work", "moment"], .file "columns = 1979-05-27\n".toUTF8),
    (["work", "huge"], .file "unknown = 1e999\n".toUTF8)]⟩

/-- The empty list of aliases replaces the default list; the two other labels stay. -/
theorem partial_document_loaded :
    let load := loadConfiguration standard settingsTree
    let text := "aliases = []\n[columns]\nunknown = 1\ncode = \"Code\"\n"
    let document : Fields := [("aliases", .array []), ("columns", .table .header
      [("unknown", .scalar (.number true)), ("code", .scalar (.text "Code"))])]
    let configuration : Configuration := { columns := { code := "Code" }, aliases := [] }
    HoldsText settingsTree "partial" text ∧ standard.parse? text = some document ∧
    load "partial" = .ok configuration ∧
    WellShaped document ∧ IgnoredReadable document ∧ Overlays document configuration ∧
    HoldsText settingsTree "broken" "columns =\n" ∧ standard.parse? "columns =\n" = none ∧
    load "broken" = .error (.invalid "broken" (standard.refusal "columns =\n")) := by
  intro load text document configuration
  have holds : HoldsText settingsTree "partial" text := rfl
  have parsed : standard.parse? text = some document := by
    simp only [text]
    rfl
  have loaded : load "partial" = .ok configuration := by decide +kernel
  obtain ⟨_, _, documents⟩ := loading_overlays_defaults standard settingsTree "partial"
  obtain ⟨_, _, settings, _⟩ := documents text document holds parsed
  obtain ⟨shaped, readable, overlays⟩ := (settings configuration).mp loaded
  have broken : HoldsText settingsTree "broken" "columns =\n" := rfl
  have unparsed : standard.parse? "columns =\n" = none := rfl
  obtain ⟨_, refuses, _⟩ := loading_overlays_defaults standard settingsTree "broken"
  exact ⟨holds, parsed, loaded, shaped, readable, overlays, broken, unparsed,
    refuses _ broken unparsed⟩

/-- Columns that are neither a table nor an array are taken if they are a point in time, and a
document that sets nothing is refused for a number. -/
theorem moment_taken_huge_number_refused :
    (HoldsText settingsTree "moment" "columns = 1979-05-27\n" ∧
      standard.parse? "columns = 1979-05-27\n" = some [("columns", .scalar .moment)] ∧
      (∀ origin fields, Value.scalar .moment ≠ .table origin fields) ∧
      (∀ items, ¬HasItems (.scalar .moment) items) ∧
      loadConfiguration standard settingsTree "moment" = .ok {}) ∧
    HoldsText settingsTree "huge" "unknown = 1e999\n" ∧
    standard.parse? "unknown = 1e999\n" = some [("unknown", .scalar (.number false))] ∧
    ∃ detail, loadConfiguration standard settingsTree "huge" =
      .error (.invalid "huge" detail) := by
  have moment : HoldsText settingsTree "moment" "columns = 1979-05-27\n" := rfl
  have taken : loadConfiguration standard settingsTree "moment" = .ok {} := by decide +kernel
  have huge : HoldsText settingsTree "huge" "unknown = 1e999\n" := rfl
  have unreadable : standard.parse? "unknown = 1e999\n" =
      some [("unknown", .scalar (.number false))] := by
    set_option maxRecDepth 2000 in rfl
  have refused : loadConfiguration standard settingsTree "huge" =
      .error (.invalid "huge" "TOML parse error") := by decide +kernel
  exact ⟨⟨moment, rfl, nofun, nofun, taken⟩, huge, unreadable, _, refused⟩

end UnitCatalogue.Configuration
