/-!
# The counts of a run
-/

namespace UnitCatalogue

structure Report where
  units : Nat := 0
  duplicates : Nat := 0
  blankRows : Nat := 0
  unusableRows : Nat := 0
  aliases : Nat := 0
deriving DecidableEq, Inhabited

end UnitCatalogue
