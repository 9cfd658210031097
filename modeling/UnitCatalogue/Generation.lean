import UnitCatalogue.Configuration
import UnitCatalogue.Directory.Replacement
import UnitCatalogue.Failure
import UnitCatalogue.Rendering
import UnitCatalogue.Sheet.UnitReader
import UnitCatalogue.Sheet.Workbook

/-!
# Generating a module from a workbook

A run looks for the workbook, opens it, finds the sheet and its columns, renders the units and
replaces the output file. The first stage that fails ends the run; only the last one touches the
tree.
-/

namespace UnitCatalogue

open Directory

/-- Opens the workbook at a path. -/
def openWorkbook (reader : Sheet.WorkbookReader) (tree : Tree) (path : String) :
    Except Sheet.Failure Sheet.Workbook :=
  match tree.read (Path.ofText path) with
  | .error fault => .error (.unreadableWorkbook (path ++ ": " ++ reader.refusal path fault))
  | .ok data =>
    (reader.decode path data).mapError fun detail => .unreadableWorkbook (path ++ ": " ++ detail)

/-- The result of a run, the tree that it leaves, and what it told on the way. -/
structure Run (α : Type) where
  result : Except Failure α
  tree : Tree
  events : List Event

/-- The columns and the units of the configured sheet. -/
def readSheet (reader : Sheet.WorkbookReader) (tree : Tree) (input : String)
    (configuration : Configuration) : Except Failure (Columns × List Entry) :=
  if tree.exists? (Path.ofText input) then do
    let workbook ← (openWorkbook reader tree input).mapError .sheet
    let rows ← (workbook.block configuration.sheetName).mapError .sheet
    (Sheet.readUnits rows configuration.columns).mapError .sheet
  else .error (.inputMissing input)

def generate (reader : Sheet.WorkbookReader) (naming : Naming) (tree : Tree)
    (input output : String) (configuration : Configuration) (refusals : Refusals := {}) :
    Run Report :=
  match readSheet reader tree input configuration with
  | .error failure => ⟨.error failure, tree, []⟩
  | .ok (columns, entries) =>
    let rendering := render entries configuration.aliases
    let events := .columnsFound columns :: rendering.events
    match tree.writeReplacing naming (Path.ofText output) rendering.text.toUTF8 refusals with
    | (.error fault, tree) => ⟨.error (.output fault), tree, events⟩
    | (.ok (), tree) =>
      ⟨.ok rendering.report, tree, events ++ [.moduleWritten rendering.report output]⟩

/-- The configuration in the file at a path. -/
def loadConfiguration (parser : Toml.Parser) (tree : Tree) (path : String) :
    Except ConfigurationFailure Configuration :=
  match tree.readText (Path.ofText path) with
  | .error fault => .error (.unreadable path fault)
  | .ok text =>
    match Configuration.ofText? parser text with
    | some configuration => .ok configuration
    | none => .error (.invalid path (parser.refusal text))

end UnitCatalogue
