import UnitCatalogue.Text.Quoted

/-!
# Why a sheet cannot be read
-/

namespace UnitCatalogue.Sheet

inductive Failure where
  | unreadableWorkbook (detail : String)
  | sheetMissing (sheet : String) (available : List String)
  | noHeader
  | columnMissing (label : String)
deriving DecidableEq, Inhabited

def Failure.message : Failure → String
  | unreadableWorkbook detail => "Unable to process the spreadsheet: " ++ detail
  | sheetMissing sheet available =>
    "Sheet '" ++ sheet ++ "' not found (available: " ++ ", ".intercalate available ++ ")"
  | noHeader => "Sheet has no header row"
  | columnMissing label => "Header row has no column labelled " ++ Text.shown label

end UnitCatalogue.Sheet
