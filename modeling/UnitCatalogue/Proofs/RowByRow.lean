import Mathlib.Data.List.Forall2
import UnitCatalogue.Proofs.HeaderColumns

/-!
# Reading row by row

A reader takes the header when it opens and one row for each unit that is pulled, however many are
pulled and whatever the rows look like. The rows behind stay in the source.
-/

namespace UnitCatalogue.Sheet

/-- The unit has the texts of the row at the three columns, and an empty name for none. -/
structure Shows (columns : Columns) (row : Row) (unit : Entry) : Prop where
  name : unit.name = (cellAt row columns.name).text?.getD ""
  code : unit.code = (cellAt row columns.code).text?
  suffix : unit.suffix = (cellAt row columns.suffix).text?

/-- One unit for each of the rows in front, and the other rows are still in the source. -/
structure Pulls (reader : UnitReader) (limit : Nat) (units : List Entry) (after : UnitReader) :
    Prop where
  shown : List.Forall₂ (Shows reader.columns) (reader.source.rest.take limit) units
  columns_eq : after.columns = reader.columns
  rest_eq : after.source.rest = reader.source.rest.drop limit
  taken_eq : after.source.taken = reader.source.taken + min limit reader.source.rest.length

theorem shows_entryOf (columns : Columns) (row : Row) :
    Shows columns row (entryOf columns row) where
  name := congrArg (·.getD "") (textAt?_eq row columns.name)
  code := textAt?_eq row columns.code
  suffix := textAt?_eq row columns.suffix

theorem forall₂_shows (columns : Columns) (rows : List Row) :
    List.Forall₂ (Shows columns) rows (rows.map (entryOf columns)) := by
  rw [List.forall₂_map_right_iff, List.forall₂_same]
  exact fun row _ => shows_entryOf columns row

theorem pulls_take (reader : UnitReader) (limit : Nat) :
    Pulls reader limit (reader.take limit).1 (reader.take limit).2 := by
  rw [UnitReader.take_eq]
  exact ⟨forall₂_shows reader.columns _, rfl, rfl, rfl⟩

theorem take_of_length_le {reader : UnitReader} {limit : Nat}
    (enough : reader.source.rest.length ≤ limit) : reader.take limit = reader.takeAll := by
  rw [UnitReader.takeAll, UnitReader.take_eq, UnitReader.take_eq, List.take_of_length_le enough,
    List.take_length, List.drop_of_length_le enough, List.drop_length, Nat.min_eq_right enough,
    Nat.min_self]

theorem next?_eq_none_iff (reader : UnitReader) :
    reader.next? = none ↔ reader.source.rest = [] := by
  obtain ⟨columns, rest, taken⟩ := reader
  cases rest with
  | nil => exact iff_of_true rfl rfl
  | cons row rest => exact iff_of_false (Option.some_ne_none _) (List.cons_ne_nil _ _)

/-- Opening takes no row from a source without rows, and else the header alone, whether or not all
columns are found. If they are, then pulling up to a limit gives one unit for each row in front and
takes these rows and no other; and without a limit it ends with the last row. -/
theorem rows_read_one_by_one (source : RowSource) (labels : Labels) :
    let opened := (UnitReader.start source labels).1
    let left := (UnitReader.start source labels).2
    (source.rest = [] → opened = .error .noHeader ∧ left = source) ∧
    ∀ header rows, source.rest = header :: rows →
      left = ⟨rows, source.taken + 1⟩ ∧
      ((∀ label ∈ labels.inOrder, Cell.text label ∈ header) →
        ∃ reader, opened = .ok reader ∧ reader.source = left ∧
          AreLastLabels header labels reader.columns ∧
          (∀ limit, Pulls reader limit (reader.take limit).1 (reader.take limit).2 ∧
            (reader.take limit).1.length = min limit rows.length ∧
            (reader.take limit).2.source.taken = source.taken + (1 + min limit rows.length) ∧
            ((reader.take limit).2.next? = none ↔ rows.length ≤ limit)) ∧
          (∀ limit, rows.length ≤ limit → reader.take limit = reader.takeAll) ∧
          reader.takeAll.2.source = ⟨[], source.taken + (rows.length + 1)⟩) := by
  obtain ⟨rest, taken⟩ := source
  intro opened left
  refine ⟨?_, ?_⟩
  · rintro rfl
    exact ⟨rfl, rfl⟩
  · rintro header rows rfl
    refine ⟨rfl, fun present => ?_⟩
    obtain ⟨columns, last⟩ := exists_areLastLabels_iff.mpr present
    refine ⟨⟨columns, ⟨rows, taken + 1⟩⟩, start_eq_ok_iff.mpr ⟨last, rfl⟩, rfl, last, ?_, ?_, ?_⟩
    · intro limit
      have pulls := pulls_take ⟨columns, ⟨rows, taken + 1⟩⟩ limit
      refine ⟨pulls, ?_, ?_, ?_⟩
      · rw [← pulls.shown.length_eq, List.length_take]
      · rw [pulls.taken_eq, Nat.add_assoc]
      · rw [next?_eq_none_iff, pulls.rest_eq, List.drop_eq_nil_iff]
    · exact fun limit enough => take_of_length_le enough
    · rw [UnitReader.takeAll, UnitReader.take_eq, List.drop_length, Nat.min_self, Nat.add_assoc,
        Nat.add_comm 1]

/-- A row without cells is a unit, and the row behind the limit stays. -/
example : UnitReader.take 2 ⟨⟨0, 1, 2⟩, ⟨[[.text "metre"], [], [.text "gram"]], 1⟩⟩ =
    ([⟨"metre", none, none⟩, ⟨"", none, none⟩], ⟨⟨0, 1, 2⟩, ⟨[[.text "gram"]], 3⟩⟩) := rfl

end UnitCatalogue.Sheet
