/-!
# The three columns of a unit sheet
-/

namespace UnitCatalogue

/-- The header texts that mark the columns. -/
structure Labels where
  name : String := "Name"
  code : String := "Common\nCode"
  suffix : String := "Symbol"
deriving DecidableEq, Inhabited

/-- Positions of the columns, counted from zero. -/
structure Columns where
  name : Nat
  code : Nat
  suffix : Nat
deriving DecidableEq, Inhabited

end UnitCatalogue
