import UnitCatalogue.Columns
import UnitCatalogue.Sheet.Cell
import UnitCatalogue.Sheet.Failure

/-!
# The header row

A column is found by its label: the last text cell of the header that equals it. Cells of other
kinds match no label, whatever they display.
-/

namespace UnitCatalogue.Sheet

def Cell.isLabel (label : String) : Cell → Bool
  | .text content => content == label
  | _ => false

/-- The last index at which a list satisfies a test. -/
def lastIndex? {α : Type} (test : α → Bool) : List α → Option Nat
  | [] => none
  | a :: rest =>
    match lastIndex? test rest with
    | some index => some (index + 1)
    | none => if test a then some 0 else none

def findColumn (header : Row) (label : String) : Except Failure Nat :=
  match lastIndex? (Cell.isLabel label) header with
  | some index => .ok index
  | none => .error (.columnMissing label)

/-- The three columns; of several missing labels the first of name, code and suffix is told. -/
def findColumns (header : Row) (labels : Labels) : Except Failure Columns := do
  let name ← findColumn header labels.name
  let code ← findColumn header labels.code
  let suffix ← findColumn header labels.suffix
  return ⟨name, code, suffix⟩

end UnitCatalogue.Sheet
