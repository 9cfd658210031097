/-!
# Units as a sheet gives them
-/

namespace UnitCatalogue

/-- One unit: its display name, its common code and its symbol. An empty text is a text that is
present. -/
structure Entry where
  name : String
  code : Option String := none
  suffix : Option String := none
deriving DecidableEq, Inhabited

/-- A further name for a declared unit. -/
structure Alias where
  name : String
  target : String
deriving DecidableEq, Inhabited

end UnitCatalogue
