import UnitCatalogue.Entry
import UnitCatalogue.Sheet.Header

/-!
# Reading units row by row

Rows come from a source that counts how many it has handed out. Opening takes the header and
nothing else; after that each unit takes one row, and no row is skipped.
-/

namespace UnitCatalogue.Sheet

/-- The rows still to come, and the number of those handed out. -/
structure RowSource where
  rest : List Row
  taken : Nat := 0
deriving Inhabited

def RowSource.next? (source : RowSource) : Option (Row × RowSource) :=
  match source.rest with
  | [] => none
  | row :: rest => some (row, ⟨rest, source.taken + 1⟩)

/-- The text at a column; a short row has none beyond its end. -/
def textAt? (row : Row) (column : Nat) : Option String := row[column]?.bind Cell.text?

/-- The unit of a row, with the empty name where the row has none. -/
def entryOf (columns : Columns) (row : Row) : Entry where
  name := (textAt? row columns.name).getD ""
  code := textAt? row columns.code
  suffix := textAt? row columns.suffix

structure UnitReader where
  columns : Columns
  source : RowSource
deriving Inhabited

namespace UnitReader

/-- Takes the header from the source and finds the columns. The source comes back in both
cases, so that a failure shows what it took. -/
def start (source : RowSource) (labels : Labels) : Except Failure UnitReader × RowSource :=
  match source.next? with
  | none => (.error .noHeader, source)
  | some (header, source) =>
    ((findColumns header labels).map fun columns => ⟨columns, source⟩, source)

def next? (reader : UnitReader) : Option (Entry × UnitReader) :=
  match reader.source.next? with
  | none => none
  | some (row, source) => some (entryOf reader.columns row, { reader with source := source })

/-- At most `limit` units, and the reader after them. -/
def take : Nat → UnitReader → List Entry × UnitReader
  | 0, reader => ([], reader)
  | limit + 1, reader =>
    match reader.next? with
    | none => ([], reader)
    | some (entry, reader) =>
      let (entries, reader) := take limit reader
      (entry :: entries, reader)

/-- All units that are left. -/
def takeAll (reader : UnitReader) : List Entry × UnitReader :=
  reader.take reader.source.rest.length

end UnitReader

/-- The columns and the units of a whole sheet. -/
def readUnits (rows : List Row) (labels : Labels) : Except Failure (Columns × List Entry) :=
  (UnitReader.start ⟨rows, 0⟩ labels).1.map fun reader => (reader.columns, reader.takeAll.1)

end UnitCatalogue.Sheet
