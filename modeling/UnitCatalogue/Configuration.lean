import UnitCatalogue.Columns
import UnitCatalogue.Entry
import UnitCatalogue.Toml.Value

/-!
# Configuration

Which sheet is read, which labels mark its columns, and which aliases the module gets. A TOML
document sets any of them; each that it leaves out keeps its default, whatever else it says.
Unknown keys have no effect.
-/

namespace UnitCatalogue

def defaultAliases : List Alias :=
  [⟨"MINUTE", "MINUTE_UNIT_OF_TIME"⟩, ⟨"SECOND", "SECOND_UNIT_OF_TIME"⟩]

structure Configuration where
  sheetName : String := "Annex II & Annex III"
  columns : Labels := {}
  aliases : List Alias := defaultAliases
deriving DecidableEq, Inhabited

namespace Configuration

open Toml

mutual

/-- Whether a value may stand under a key that is ignored: it has no effect there, but its numbers
are read. -/
def valueIsReadable : Value → Bool
  | .scalar content => content.isReadable
  | .array items => itemsAreReadable items
  | .tables items => itemsAreReadable items
  | .table _ fields => fieldsAreReadable fields

def itemsAreReadable : List Value → Bool
  | [] => true
  | value :: rest => valueIsReadable value && itemsAreReadable rest

def fieldsAreReadable : List (String × Value) → Bool
  | [] => true
  | (_, value) :: rest => valueIsReadable value && fieldsAreReadable rest

end

def textOf? : Value → Option String
  | .scalar (.text content) => some content
  | _ => none

/-- The text under a key, or the default where the key is absent. -/
def textOr (fields : Fields) (key default : String) : Option String :=
  match fields.lookup key with
  | some value => textOf? value
  | none => some default

/-- The text at an index, or the default beyond the end. -/
def itemOr (items : List Value) (index : Nat) (default : String) : Option String :=
  match items[index]? with
  | some value => textOf? value
  | none => some default

/-- Whether every value under a key not listed may be ignored. -/
def othersAreReadable (known : List String) (fields : Fields) : Bool :=
  fields.all fun (key, value) => known.contains key || valueIsReadable value

def labelsOfFields (fields : Fields) : Option Labels := do
  guard (othersAreReadable ["name", "code", "suffix"] fields)
  let default : Labels := {}
  return ⟨← textOr fields "name" default.name, ← textOr fields "code" default.code,
    ← textOr fields "suffix" default.suffix⟩

/-- Items beyond the third have no effect. -/
def labelsOfItems (items : List Value) : Option Labels := do
  let default : Labels := {}
  return ⟨← itemOr items 0 default.name, ← itemOr items 1 default.code,
    ← itemOr items 2 default.suffix⟩

/-- Labels are a table, or an array in the order name, code, suffix. A point in time counts as a
table without any of the keys. -/
def labelsOf? : Value → Option Labels
  | .table _ fields => labelsOfFields fields
  | .array items => labelsOfItems items
  | .tables items => labelsOfItems items
  | .scalar .moment => some {}
  | .scalar _ => none

def aliasOfItems : List Value → Option Alias
  | name :: target :: _ => do return ⟨← textOf? name, ← textOf? target⟩
  | _ => none

/-- An alias is a table with both keys, or an array in the order alias, target. -/
def aliasOf? : Value → Option Alias
  | .table _ fields => do
    guard (othersAreReadable ["alias", "target"] fields)
    return ⟨← (fields.lookup "alias").bind textOf?, ← (fields.lookup "target").bind textOf?⟩
  | .array items => aliasOfItems items
  | .tables items => aliasOfItems items
  | .scalar _ => none

def aliasesOf? : Value → Option (List Alias)
  | .array items => items.mapM aliasOf?
  | .tables items => items.mapM aliasOf?
  | _ => none

/-- Lays a document over the defaults. -/
def ofFields? (fields : Fields) : Option Configuration := do
  guard (othersAreReadable ["sheet_name", "columns", "aliases"] fields)
  let default : Configuration := {}
  let sheetName ← textOr fields "sheet_name" default.sheetName
  let columns ← match fields.lookup "columns" with
    | some value => labelsOf? value
    | none => some default.columns
  let aliases ← match fields.lookup "aliases" with
    | some value => aliasesOf? value
    | none => some default.aliases
  return ⟨sheetName, columns, aliases⟩

def ofText? (parser : Parser) (text : String) : Option Configuration :=
  (parser.parse? text).bind ofFields?

end Configuration

end UnitCatalogue
