import UnitCatalogue.Sheet.UnitReader
import UnitCatalogue.Sheet.Workbook

/-!
# Reading a sheet

The reader gives one unit for each row behind the header. The columns are found if every label
stands in the header; otherwise the first label that does not is told.
-/

namespace UnitCatalogue.Sheet

/-- The cell at a column. A row goes on with empty cells. -/
def cellAt (row : Row) (column : Nat) : Cell := row[column]?.getD .empty

theorem textAt?_eq (row : Row) (column : Nat) : textAt? row column = (cellAt row column).text? := by
  rw [textAt?, cellAt]
  cases row[column]? with
  | none => rfl
  | some cell => rfl

theorem cellAt_eq_text_iff {row : Row} {column : Nat} {content : String} :
    cellAt row column = .text content ↔ row[column]? = some (.text content) := by
  rw [cellAt]
  cases row[column]? with
  | none => simp
  | some cell => simp

theorem UnitReader.take_eq (reader : UnitReader) (limit : Nat) :
    reader.take limit = ((reader.source.rest.take limit).map (entryOf reader.columns),
      ⟨reader.columns, ⟨reader.source.rest.drop limit,
        reader.source.taken + min limit reader.source.rest.length⟩⟩) := by
  induction limit generalizing reader with
  | zero => simp [take]
  | succ limit ih =>
    obtain ⟨columns, rest, taken⟩ := reader
    cases rest with
    | nil => simp [take, next?, RowSource.next?]
    | cons row rest =>
      have step : (⟨columns, row :: rest, taken⟩ : UnitReader).next? =
          some (entryOf columns row, ⟨columns, rest, taken + 1⟩) := rfl
      simp only [take, step, ih]
      simp
      omega

theorem UnitReader.start_cons (header : Row) (rows : List Row) (taken : Nat) (labels : Labels) :
    start ⟨header :: rows, taken⟩ labels =
      ((findColumns header labels).map fun columns => ⟨columns, ⟨rows, taken + 1⟩⟩,
        ⟨rows, taken + 1⟩) := rfl

theorem readUnits_nil (labels : Labels) : readUnits [] labels = .error .noHeader := rfl

theorem readUnits_cons (header : Row) (rows : List Row) (labels : Labels) :
    readUnits (header :: rows) labels =
      (findColumns header labels).map fun columns => (columns, rows.map (entryOf columns)) := by
  rw [readUnits, UnitReader.start_cons]
  cases findColumns header labels with
  | error failure => rfl
  | ok columns => simp [Except.map, UnitReader.takeAll, UnitReader.take_eq]

theorem readUnits_eq_ok_iff {sheet : List Row} {labels : Labels} {columns : Columns}
    {entries : List Entry} : readUnits sheet labels = .ok (columns, entries) ↔
      ∃ header rows, sheet = header :: rows ∧ findColumns header labels = .ok columns ∧
        entries = rows.map (entryOf columns) := by
  constructor
  · intro read
    cases sheet with
    | nil => cases read
    | cons header rows =>
      rw [readUnits_cons] at read
      cases found : findColumns header labels with
      | error failure =>
        rw [found] at read
        cases read
      | ok last =>
        rw [found] at read
        cases read
        exact ⟨header, rows, rfl, found, rfl⟩
  · rintro ⟨header, rows, rfl, found, rfl⟩
    rw [readUnits_cons, found]
    rfl

theorem lastIndex?_eq_none_iff {α : Type} {test : α → Bool} {list : List α} :
    lastIndex? test list = none ↔ ∀ a ∈ list, test a = false := by
  induction list with
  | nil => simp [lastIndex?]
  | cons first rest ih =>
    rw [lastIndex?]
    cases found : lastIndex? test rest with
    | some index =>
      have held : ¬∀ a ∈ rest, test a = false := by
        rw [← ih, found]
        exact Option.some_ne_none index
      constructor
      · intro none
        cases none
      · intro fails
        exact absurd (fun a member => fails a (List.mem_cons_of_mem _ member)) held
    | none =>
      have fails := ih.mp found
      cases holds : test first with
      | true => simp [holds]
      | false => simpa [holds] using fails

theorem Cell.isLabel_iff {label : String} {cell : Cell} :
    cell.isLabel label = true ↔ cell = .text label := by
  cases cell <;> simp [isLabel]

theorem findColumn_of_not_mem {header : Row} {label : String}
    (absent : Cell.text label ∉ header) :
    findColumn header label = .error (.columnMissing label) := by
  have none : lastIndex? (Cell.isLabel label) header = none := by
    rw [lastIndex?_eq_none_iff]
    intro cell member
    rw [Bool.eq_false_iff, ne_eq, Cell.isLabel_iff]
    rintro rfl
    exact absent member
  rw [findColumn, none]

theorem exists_findColumn {header : Row} {label : String} (present : Cell.text label ∈ header) :
    ∃ index, findColumn header label = .ok index := by
  rw [findColumn]
  cases found : lastIndex? (Cell.isLabel label) header with
  | some index => exact ⟨index, rfl⟩
  | none =>
    have fails := lastIndex?_eq_none_iff.mp found _ present
    simp [Cell.isLabel] at fails

/-- The first label that no text cell of the header equals decides. -/
theorem findColumns_cases (header : Row) (labels : Labels) :
    match [labels.name, labels.code, labels.suffix].find? (Cell.text · ∉ header) with
    | some label => findColumns header labels = .error (.columnMissing label)
    | none => ∃ columns, findColumns header labels = .ok columns := by
  rw [findColumns]
  by_cases name : Cell.text labels.name ∈ header
  · obtain ⟨first, name_found⟩ := exists_findColumn name
    by_cases code : Cell.text labels.code ∈ header
    · obtain ⟨second, code_found⟩ := exists_findColumn code
      by_cases suffix : Cell.text labels.suffix ∈ header
      · obtain ⟨third, suffix_found⟩ := exists_findColumn suffix
        simp only [name_found, code_found, suffix_found]
        simp [name, code, suffix, bind, Except.bind, pure, Except.pure]
      · simp only [name_found, code_found, findColumn_of_not_mem suffix]
        simp [name, code, suffix, bind, Except.bind]
    · simp only [name_found, findColumn_of_not_mem code]
      simp [name, code, bind, Except.bind]
  · simp only [findColumn_of_not_mem name]
    simp [name, bind, Except.bind]

end UnitCatalogue.Sheet
