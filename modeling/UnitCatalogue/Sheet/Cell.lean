import UnitCatalogue.Decimal.Display

/-!
# Cells

What a cell of a worksheet holds, and the text that it gives to a unit.
-/

namespace UnitCatalogue.Sheet

open Decimal

inductive Cell where
  | empty
  | text (content : String)
  | truth (value : Bool)
  | integer (value : Int)
  | number (value : Binary64)
  /-- A point in time as a serial number of days. -/
  | moment (serial : Binary64)
  /-- A length of time as a serial number of days. -/
  | period (serial : Binary64)
  | momentText (content : String)
  | periodText (content : String)
  | fault (code : String)
deriving DecidableEq, Inhabited

/-- Whole numbers nearer to zero than this are written from their value, digit by digit. -/
def wholeLimit : Nat := Nat.pow 10 15

def numberText (x : Binary64) : List Char :=
  match x.whole? with
  | some n => if n.natAbs < wholeLimit then intText n else x.text
  | none => x.text

/-- The text of a cell. Empty cells, faults and empty texts give none. -/
def Cell.text? : Cell → Option String
  | .empty => none
  | .fault _ => none
  | .text content => if content = "" then none else some content
  | .truth value => some (if value then "true" else "false")
  | .integer value => some (String.ofList (intText value))
  | .number value => some (String.ofList (numberText value))
  | .moment serial => some (String.ofList serial.text)
  | .period serial => some (String.ofList serial.text)
  | .momentText content => some content
  | .periodText content => some content

abbrev Row := List Cell

end UnitCatalogue.Sheet
