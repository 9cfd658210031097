import UnitCatalogue.Directory.Fault
import UnitCatalogue.Sheet.Cell
import UnitCatalogue.Sheet.Failure

/-!
# Workbooks

The containers of workbooks come in several formats, and none is decoded here. A reader is given
that shows the sheets of a container and their rows, or tells why it cannot; all that follows holds
for every reader.
-/

namespace UnitCatalogue.Sheet

/-- A workbook as a reader shows it: the names of its sheets in their order, and the rows of a
sheet, or why it has none to show. -/
structure Workbook where
  sheetNames : List String
  rows : String → Except String (List Row)

/-- A reader of workbooks. -/
structure WorkbookReader where
  /-- Opens a container under the path that it was found at, for a path may promise a format. -/
  decode : String → ByteArray → Except String Workbook
  /-- What is told of a file whose bytes cannot be had. -/
  refusal : String → Directory.Fault → String

/-- A reader that knows one container, with one sheet in it. -/
def WorkbookReader.single (container : ByteArray) (sheet : String) (rows : List Row) :
    WorkbookReader where
  decode _ bytes :=
    if bytes.data = container.data then .ok ⟨[sheet], fun _ => .ok rows⟩
    else .error "invalid Zip archive"
  refusal _ fault := fault.message

/-- The rows of the sheet with exactly this name. -/
def Workbook.block (workbook : Workbook) (name : String) : Except Failure (List Row) :=
  if name ∈ workbook.sheetNames then
    (workbook.rows name).mapError fun detail => .unreadableWorkbook (name ++ ": " ++ detail)
  else .error (.sheetMissing name workbook.sheetNames)

end UnitCatalogue.Sheet
