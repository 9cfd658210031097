import UnitCatalogue.AliasSelection
import UnitCatalogue.Columns
import UnitCatalogue.Report

/-!
# Events of a run

What a run tells its reader besides its result: one event for each row that is not added, one
for each alias that is not kept, the columns once they are found, and the counts at the end.
-/

namespace UnitCatalogue

inductive Event where
  | columnsFound (columns : Columns)
  | blankRow (row : Nat)
  | unusableName (name : String)
  | duplicateIdentifier (identifier kept dropped : String)
  | aliasTargetMissing (name target : String)
  | aliasNameTaken (name : String)
  | moduleWritten (report : Report) (path : String)
deriving DecidableEq, Inhabited

inductive Level where
  | debug
  | info
  | warn
deriving DecidableEq, Inhabited

namespace Event

def level : Event → Level
  | columnsFound _ | blankRow _ => .debug
  | moduleWritten _ _ => .info
  | _ => .warn

def message : Event → String
  | columnsFound _ => "resolved unit columns"
  | blankRow _ => "skipping row without a name"
  | unusableName _ => "unit name has no usable identifier, skipping"
  | duplicateIdentifier _ _ _ => "duplicate unit identifier, keeping first occurrence"
  | aliasTargetMissing _ _ => "alias target not generated, skipping"
  | aliasNameTaken _ => "alias name already in use, skipping"
  | moduleWritten _ _ => "generated units module"

/-- The positions as the event shows them. -/
def columnsText (columns : Columns) : String :=
  "ColumnIndices \x7b name: " ++ toString columns.name ++ ", code: " ++ toString columns.code
    ++ ", suffix: " ++ toString columns.suffix ++ " \x7d"

/-- The named texts that an event carries. -/
def fields : Event → List (String × String)
  | columnsFound columns => [("columns", columnsText columns)]
  | blankRow row => [("row", toString row)]
  | unusableName name => [("name", name)]
  | duplicateIdentifier identifier kept dropped =>
    [("identifier", identifier), ("kept", kept), ("dropped", dropped)]
  | aliasTargetMissing name target => [("alias", name), ("target", target)]
  | aliasNameTaken name => [("alias", name)]
  | moduleWritten report path =>
    [("units", toString report.units), ("duplicates", toString report.duplicates),
     ("unusable", toString report.unusableRows), ("aliases", toString report.aliases),
     ("outfile", path)]

end Event

/-- The event of the row at an index of the input, the header being row one. -/
def Outcome.event? (outcome : Outcome) (entry : Entry) (index : Nat) : Option Event :=
  match outcome with
  | .added _ => none
  | .duplicate identifier kept => some (.duplicateIdentifier identifier kept entry.name)
  | .blank => some (.blankRow (index + 2))
  | .unusable name => some (.unusableName name)

def Verdict.event? (verdict : Verdict) (a : Alias) : Option Event :=
  match verdict with
  | .kept => none
  | .targetMissing => some (.aliasTargetMissing a.name a.target)
  | .nameTaken => some (.aliasNameTaken a.name)

end UnitCatalogue
