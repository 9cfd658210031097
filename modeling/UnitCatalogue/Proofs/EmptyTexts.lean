import UnitCatalogue.Proofs.LookupTables
import UnitCatalogue.Proofs.NumberTexts
import UnitCatalogue.Proofs.ReadingBack
import UnitCatalogue.Proofs.RowByRow
import UnitCatalogue.Proofs.RowOrder

/-!
# Empty texts

Truth values and numbers of every kind are displayed by some characters, and an empty text cell
gives no text. A time that a cell holds as a text is displayed as it is, and if that is empty, then
the unit has an empty code or suffix that is present, the module declares it, and the empty key may
find a unit. There is no other way to either.
-/

namespace UnitCatalogue

namespace Decimal

theorem Scientific.text_ne_nil (x : Scientific) : x.text ≠ [] := by
  obtain whole | fraction := le_or_gt 0 x.exponent
  · exact (isDigits_iff.mp (x.text_of_whole whole).1).1
  · exact List.ne_nil_of_mem (x.point_mem_text_iff.mpr fraction)

theorem signed_ne_nil (negative : Bool) {text : List Char} (nonempty : text ≠ []) :
    signed negative text ≠ [] := by
  cases negative
  · exact nonempty
  · exact List.cons_ne_nil _ _

theorem intText_ne_nil (n : Int) : intText n ≠ [] := by
  rw [intText_eq]
  exact signed_ne_nil _ (natText_ne_nil _)

theorem Binary64.text_ne_nil (x : Binary64) : x.text ≠ [] := by
  rw [text]
  cases x.meaning with
  | notNumber => exact List.cons_ne_nil _ _
  | infinite negative => exact signed_ne_nil negative (List.cons_ne_nil _ _)
  | finite negative significand exponent =>
    simp only
    split
    · exact signed_ne_nil negative (List.cons_ne_nil _ _)
    · exact signed_ne_nil negative (Scientific.text_ne_nil _)

end Decimal

namespace Sheet

open Decimal

theorem numberText_ne_nil (x : Binary64) : numberText x ≠ [] := by
  rw [numberText]
  split
  · split
    · exact intText_ne_nil _
    · exact x.text_ne_nil
  · exact x.text_ne_nil

theorem some_ofList_ne_empty {text : List Char} (nonempty : text ≠ []) :
    some (String.ofList text) ≠ some "" := by
  rwa [Ne, Option.some_inj, String.ofList_eq_empty_iff]

/-- The cell holds a time as a text, and the text is empty. -/
inductive IsEmptyTime : Cell → Prop where
  | moment : IsEmptyTime (.momentText "")
  | period : IsEmptyTime (.periodText "")

theorem text?_eq_empty_iff (cell : Cell) : cell.text? = some "" ↔ IsEmptyTime cell := by
  constructor
  · intro shown
    -- Texts are tested for emptiness, numbers have digits, and times as texts are left.
    cases cell with
    | empty => cases shown
    | fault code => cases shown
    | text content =>
      rw [Cell.text?] at shown
      split at shown
      · cases shown
      · next nonempty => exact absurd (Option.some.inj shown) nonempty
    | truth value =>
      cases value
      · simp [Cell.text?] at shown
      · simp [Cell.text?] at shown
    | integer value => exact absurd shown (some_ofList_ne_empty (intText_ne_nil value))
    | number value => exact absurd shown (some_ofList_ne_empty (numberText_ne_nil value))
    | moment serial => exact absurd shown (some_ofList_ne_empty serial.text_ne_nil)
    | period serial => exact absurd shown (some_ofList_ne_empty serial.text_ne_nil)
    | momentText content =>
      obtain rfl := Option.some.inj shown
      exact .moment
    | periodText content =>
      obtain rfl := Option.some.inj shown
      exact .period
  · rintro (_ | _)
    · rfl
    · rfl

instance : DecidablePred IsEmptyTime :=
  fun cell => decidable_of_iff (cell.text? = some "") (text?_eq_empty_iff cell)

end Sheet

/-- The unit has a code or a suffix, and it is empty. -/
def HasEmptyText (unit : Entry) : Prop := unit.code = some "" ∨ unit.suffix = some ""

theorem Sheet.Shows.hasEmptyText_iff {columns : Columns} {row : Row} {unit : Entry}
    (displayed : Shows columns row unit) : HasEmptyText unit ↔
      IsEmptyTime (cellAt row columns.code) ∨ IsEmptyTime (cellAt row columns.suffix) := by
  rw [HasEmptyText, displayed.code, displayed.suffix, text?_eq_empty_iff, text?_eq_empty_iff]

theorem sentinel_texts_nonempty :
    ∀ unit ∈ sentinels, unit.entry.name ≠ "" ∧ ¬HasEmptyText unit.entry := by
  simp [sentinels, HasEmptyText]

variable {letters : Char → Bool}

/-- The line can be read as the declaration of a unit with an empty code or suffix. -/
def DeclaresEmpty (letters : Char → Bool) (line : String) : Prop :=
  ∃ spelling unit, Declares letters line spelling unit ∧
    (spelling.code = "Some(\"\")" ∨ spelling.suffix = "Some(\"\")")

theorem optionalLiteral_eq_iff (value : Option String) :
    optionalLiteral value = "Some(\"\")" ↔ value = some "" := by
  have empty : optionalLiteral (some "") = "Some(\"\")" := by decide +kernel
  constructor
  · intro same
    have spelled := spellsOption_optionalLiteral value
    rw [same, ← empty] at spelled
    have no_rest : (optionalLiteral (some "")).toList ++ [] =
        (optionalLiteral (some "")).toList ++ [] := rfl
    exact (spelled.unique (spellsOption_optionalLiteral (some "")) no_rest).2.1
  · rintro rfl
    exact empty

theorem declaresEmpty_line_iff {unit : Declared} (legal : IsLegalName letters unit.identifier) :
    DeclaresEmpty letters unit.line ↔ HasEmptyText unit.entry := by
  rw [HasEmptyText, ← optionalLiteral_eq_iff, ← optionalLiteral_eq_iff]
  constructor
  · rintro ⟨spelling, other, declares, empty⟩
    obtain ⟨rfl, rfl⟩ := declares.unique (declares_line legal)
    exact empty
  · intro empty
    exact ⟨unit.spelling, unit, declares_line legal, empty⟩

theorem exists_declaresEmpty_iff (letters : Char → Bool) (entries : List Entry)
    (aliases : List Alias) :
    (∃ line ∈ constantLines (render entries aliases).text, DeclaresEmpty letters line) ↔
      ∃ unit ∈ keptRows entries, HasEmptyText unit.entry := by
  have legal := isLegalName_declared letters entries
  rw [constantLines_render]
  constructor
  · rintro ⟨line, member, declares⟩
    obtain ⟨unit, declared, rfl⟩ := List.mem_map.mp member
    have empty := (declaresEmpty_line_iff (legal unit declared)).mp declares
    obtain sentinel | kept := List.mem_append.mp declared
    · exact absurd empty (sentinel_texts_nonempty unit sentinel).2
    · exact ⟨unit, kept, empty⟩
  · rintro ⟨unit, kept, empty⟩
    have declared : unit ∈ sentinels ++ keptRows entries := List.mem_append_right _ kept
    exact ⟨unit.line, List.mem_map_of_mem declared,
      (declaresEmpty_line_iff (legal unit declared)).mpr empty⟩

theorem name_ne_empty_of_mem_keptRows {entries : List Entry} {unit : Declared}
    (kept : unit ∈ keptRows entries) : unit.entry.name ≠ "" := by
  have blank : Identifier.ofName "" = "" := rfl
  rw [← Catalogue.units_addAll_empty] at kept
  obtain ⟨named, nonempty, _⟩ := (Catalogue.sound_addAll entries).named unit kept
  intro empty
  rw [empty, blank] at named
  exact nonempty named

theorem findUnit?_empty_eq_none_iff (entries : List Entry) :
    findUnit? (moduleUnits entries) "" = none ↔
      ∀ unit ∈ keptRows entries, unit.entry.suffix ≠ some "" := by
  have found_iff := findUnit?_eq_some_iff (nodup_names_moduleUnits entries) ""
  rw [Option.eq_none_iff_forall_ne_some]
  constructor
  · intro missing unit kept empty
    have member : unit.entry ∈ moduleUnits entries :=
      List.mem_map_of_mem (List.mem_append_right _ kept)
    obtain ⟨last, is_last⟩ := exists_isLastWithSuffix ⟨unit.entry, member, empty⟩
    exact missing last ((found_iff last).mpr (Or.inl is_last))
  · intro nonempty entry found
    -- A unit is found by its suffix or by its name, and no declared name is empty.
    have named : entry ∈ moduleUnits entries := by
      obtain last | ⟨_, member, _⟩ := (found_iff entry).mp found
      · exact last.mem
      · exact member
    obtain ⟨unit, declared, rfl⟩ := List.mem_map.mp named
    obtain last | ⟨_, _, unnamed⟩ := (found_iff unit.entry).mp found
    · obtain sentinel | kept := List.mem_append.mp declared
      · exact (sentinel_texts_nonempty unit sentinel).2 (Or.inr last.1)
      · exact nonempty unit kept last.1
    · obtain sentinel | kept := List.mem_append.mp declared
      · exact (sentinel_texts_nonempty unit sentinel).1 unnamed
      · exact name_ne_empty_of_mem_keptRows kept unnamed

/-- No unit has an empty text, none is declared, and the empty key finds nothing. -/
structure EmptyTextsAbsent (letters : Char → Bool) (entries : List Entry) (aliases : List Alias) :
    Prop where
  units : ∀ entry ∈ entries, ¬HasEmptyText entry
  declarations : ∀ line ∈ constantLines (render entries aliases).text, ¬DeclaresEmpty letters line
  lookup : findUnit? (moduleUnits entries) "" = none

/-- The units of a sheet have no empty text exactly when no cell of the code or the suffix column
holds a time as an empty text; then none is declared, and the empty key finds nothing. In general an
empty text is declared for the kept units that have one, and the empty key finds something exactly
if it is the suffix of one. -/
theorem empty_texts_absent_iff (letters : Char → Bool) {sheet : List Sheet.Row} {labels : Labels}
    {columns : Columns} {entries : List Entry} (aliases : List Alias)
    (read : Sheet.readUnits sheet labels = .ok (columns, entries)) :
    (EmptyTextsAbsent letters entries aliases ↔
      ∀ row ∈ sheet.tail, ¬Sheet.IsEmptyTime (Sheet.cellAt row columns.code) ∧
        ¬Sheet.IsEmptyTime (Sheet.cellAt row columns.suffix)) ∧
    ((∃ line ∈ constantLines (render entries aliases).text, DeclaresEmpty letters line) ↔
      ∃ unit ∈ keptRows entries, HasEmptyText unit.entry) ∧
    (findUnit? (moduleUnits entries) "" = none ↔
      ∀ unit ∈ keptRows entries, unit.entry.suffix ≠ some "") := by
  have declared_iff := exists_declaresEmpty_iff letters entries aliases
  refine ⟨?_, declared_iff, findUnit?_empty_eq_none_iff entries⟩
  obtain ⟨header, rows, rfl, _, rfl⟩ := Sheet.readUnits_eq_ok_iff.mp read
  have empty_iff := fun row => (Sheet.shows_entryOf columns row).hasEmptyText_iff
  constructor
  · intro absent row member
    rw [← not_or, ← empty_iff]
    exact absent.units _ (List.mem_map_of_mem member)
  · intro filled
    have units : ∀ entry ∈ rows.map (Sheet.entryOf columns), ¬HasEmptyText entry := by
      rw [List.forall_mem_map]
      intro row member
      rw [empty_iff, not_or]
      exact filled row member
    have kept : ∀ unit ∈ keptRows (rows.map (Sheet.entryOf columns)), ¬HasEmptyText unit.entry :=
      fun unit member => units _ (entry_mem_of_mem_keptOf member)
    refine ⟨units, fun line member declares => ?_, ?_⟩
    · obtain ⟨unit, member', empty⟩ := declared_iff.mp ⟨line, member, declares⟩
      exact kept unit member' empty
    · rw [findUnit?_empty_eq_none_iff]
      exact fun unit member empty => kept unit member (Or.inr empty)

/-- Empty text cells, empty cells and faults give no text, and a number gives its digits. -/
theorem metre_and_gram_without_empty_texts :
    let sheet : List Sheet.Row := [[.text "Name", .text "Common\nCode", .text "Symbol"],
      [.text "metre", .number ⟨0x4024000000000000⟩, .text ""],
      [.momentText "", .periodText "PT1H", .empty], [.text "gram", .fault "#N/A"]]
    let entries : List Entry :=
      [⟨"metre", some "10", none⟩, ⟨"", some "PT1H", none⟩, ⟨"gram", none, none⟩]
    Sheet.readUnits sheet {} = .ok (⟨0, 1, 2⟩, entries) ∧
      EmptyTextsAbsent (fun _ => false) entries [] := by
  intro sheet entries
  have read : Sheet.readUnits sheet {} = .ok (⟨0, 1, 2⟩, entries) := by decide +kernel
  exact ⟨read, (empty_texts_absent_iff _ [] read).1.mpr (by decide +kernel)⟩

/-- Times that are given as empty texts are declared as empty texts, and the empty key finds their
unit; empty text cells in their place are absent. -/
theorem empty_times_declared :
    let header : Sheet.Row := [.text "Name", .text "Common\nCode", .text "Symbol"]
    let entries : List Entry := [⟨"metre", some "", some ""⟩]
    Sheet.readUnits [header, [.text "metre", .momentText "", .periodText ""]] {} =
      .ok (⟨0, 1, 2⟩, entries) ∧
    "pub const METRE: UnitDescriptor = UnitDescriptor \x7b name: \"metre\", " ++
      "code: Some(\"\"), suffix: Some(\"\") \x7d;" ∈ constantLines (render entries []).text ∧
    findUnit? (moduleUnits entries) "" = some ⟨"metre", some "", some ""⟩ ∧
    ¬EmptyTextsAbsent (fun _ => false) entries [] ∧
    Sheet.readUnits [header, [.text "metre", .text "", .text ""]] {} =
      .ok (⟨0, 1, 2⟩, [⟨"metre", none, none⟩]) := by
  intro header entries
  refine ⟨by decide +kernel, ?_, by decide +kernel, ?_, by decide +kernel⟩
  · rw [constantLines_render]
    decide +kernel
  · intro absent
    exact absent.units ⟨"metre", some "", some ""⟩ List.mem_cons_self (Or.inl rfl)

end UnitCatalogue
