import UnitCatalogue.Catalogue

/-!
# Lookup in the generated module

The tables that the generated module builds from its units. A later entry of a table replaces
an earlier one under the same key, and in the joint table a symbol replaces an equal name.
-/

namespace UnitCatalogue

/-- A table with at most one entry for each key. -/
abbrev Table := List (String × Entry)

namespace Table

def insert (table : Table) (key : String) (entry : Entry) : Table :=
  (key, entry) :: table.filter (·.1 != key)

def find? (table : Table) (key : String) : Option Entry := table.lookup key

/-- The pairs one after the other. -/
def insertAll (table : Table) (pairs : List (String × Entry)) : Table :=
  pairs.foldl (fun table pair => table.insert pair.1 pair.2) table

def byName (units : List Entry) : Table := insertAll [] (units.map fun unit => (unit.name, unit))

def bySuffix (units : List Entry) : Table :=
  insertAll [] (units.filterMap fun unit => unit.suffix.map fun suffix => (suffix, unit))

def byNameOrSuffix (units : List Entry) : Table := (byName units).insertAll (bySuffix units)

end Table

/-- The unit with this name or suffix. -/
def findUnit? (units : List Entry) (key : String) : Option Entry :=
  (Table.byNameOrSuffix units).find? key

end UnitCatalogue
