import UnitCatalogue.Toml.Value

/-!
# Building tables

No key is defined twice. A header may enter tables that stand for it to complete, a dotted key
may extend only tables that dotted keys made, and a table in braces is complete as it stands.
-/

namespace UnitCatalogue.Toml

/-- Changes the fields of the last table of an array of tables. -/
def alterLast? (change : Fields → Option Fields) : List Value → Option (List Value)
  | [] => none
  | [.table origin fields] => (change fields).map fun fields => [.table origin fields]
  | [_] => none
  | value :: rest => (alterLast? change rest).map fun rest => value :: rest

namespace Fields

/-- Adds a key that is not there yet. -/
def add? (key : String) (value : Value) (fields : Fields) : Option Fields :=
  fields.alter? key fun
    | none => some value
    | some _ => none

/-- Adds a value under a dotted key. The table that receives it must have been made by dotted
keys, unless the key has one part. -/
def addDotted? : List String → String → Value → Fields → Option Fields
  | [], last, value, fields => fields.add? last value
  | part :: path, last, value, fields =>
    fields.alter? part fun
      | none => (addDotted? path last value []).map (.table .dotted)
      | some (.table .dotted inner) => (addDotted? path last value inner).map (.table .dotted)
      | some (.table .passage inner) =>
        if path.isEmpty then none else (addDotted? path last value inner).map (.table .passage)
      | some (.tables items) =>
        if path.isEmpty then none else (alterLast? (addDotted? path last value) items).map .tables
      | some _ => none

/-- Changes the table at the end of a header's path, making the tables on the way. -/
def within? : List String → (Fields → Option Fields) → Fields → Option Fields
  | [], change, fields => change fields
  | part :: path, change, fields =>
    fields.alter? part fun
      | none => (within? path change []).map (.table .passage)
      | some (.table .braces _) => none
      | some (.table origin inner) => (within? path change inner).map (.table origin)
      | some (.tables items) => (alterLast? (within? path change) items).map .tables
      | some _ => none

/-- Gives a table its own header. -/
def openTable? (key : String) (fields : Fields) : Option Fields :=
  fields.alter? key fun
    | none => some (.table .header [])
    | some (.table .passage inner) => some (.table .header inner)
    | some _ => none

/-- Adds one more table to an array of tables. -/
def openNextTable? (key : String) (fields : Fields) : Option Fields :=
  fields.alter? key fun
    | none => some (.tables [.table .header []])
    | some (.tables items) => some (.tables (items ++ [.table .header []]))
    | some _ => none

end Fields

end UnitCatalogue.Toml
