import UnitCatalogue.Declaration
import UnitCatalogue.Identifier

/-!
# The catalogue of declared units

Units are added in row order, and the first unit that claims an identifier keeps it. A list holds
the units, and a map beside it tells who has claimed an identifier. The map starts with two units
that stand in every module before any row is read, and with the names of the lookup tables.
-/

namespace UnitCatalogue

/-- The units of every module. -/
def sentinels : List Declared :=
  [⟨"NO_DIMENSION", ⟨"No dimension", some "NDL", none⟩⟩, ⟨"NONE", ⟨"None", none, none⟩⟩]

/-- The names of the tables that the module declares after its units. -/
def reservedIdentifiers : List String :=
  ["ALL_UNITS", "UNITS_BY_NAME", "UNITS_BY_SUFFIX", "UNITS_BY_ALL"]

/-- What a duplicate is told of an identifier that a lookup table has. -/
def tableHolder : String := "generated lookup table"

/-- A map from identifiers to the display names that have claimed them. A claim stands in front of
an earlier one to the same identifier. -/
abbrev Claims := List (String × String)

namespace Claims

/-- What is claimed before any row is read. -/
def seed : Claims :=
  sentinels.map (fun unit => (unit.identifier, unit.entry.name)) ++
    reservedIdentifiers.map fun identifier => (identifier, tableHolder)

def claim (claims : Claims) (identifier name : String) : Claims := (identifier, name) :: claims

/-- The display name that an identifier is claimed with. -/
def holder? (claims : Claims) (identifier : String) : Option String := claims.lookup identifier

end Claims

/-- The units added so far, in the order of their rows, and the identifiers claimed so far. -/
structure Catalogue where
  units : List Declared := []
  seen : Claims := Claims.seed
deriving DecidableEq, Inhabited

/-- What became of a row. -/
inductive Outcome where
  | added (identifier : String)
  | duplicate (identifier kept : String)
  | blank
  | unusable (name : String)
deriving DecidableEq, Inhabited

namespace Catalogue

/-- The sentinels and the added units, in the order of the module. -/
def declared (c : Catalogue) : List Declared := sentinels ++ c.units

/-- Says who holds an identifier: the display name of a unit, or a fixed text for a table. -/
def holder? (c : Catalogue) (identifier : String) : Option String := c.seen.holder? identifier

def isTaken (c : Catalogue) (identifier : String) : Bool := (c.holder? identifier).isSome

/-- Whether the identifier names a sentinel or an added unit. -/
def isDeclared (c : Catalogue) (identifier : String) : Bool :=
  c.isTaken identifier && !reservedIdentifiers.contains identifier

def outcome (c : Catalogue) (entry : Entry) : Outcome :=
  let identifier := Identifier.ofName entry.name
  if identifier = "" then .blank
  else if Identifier.isUnusable identifier then .unusable entry.name
  else match c.holder? identifier with
    | some kept => .duplicate identifier kept
    | none => .added identifier

/-- Only an added row changes the catalogue: its identifier is claimed, and its unit is put behind
the others. -/
def add (c : Catalogue) (entry : Entry) : Catalogue :=
  match c.outcome entry with
  | .added identifier =>
    { units := c.units ++ [⟨identifier, entry⟩], seen := c.seen.claim identifier entry.name }
  | _ => c

/-- The catalogue after a list of rows. -/
def addAll (c : Catalogue) (entries : List Entry) : Catalogue := entries.foldl add c

/-- What became of each row of a list. -/
def outcomes : Catalogue → List Entry → List Outcome
  | _, [] => []
  | c, entry :: rest => c.outcome entry :: outcomes (c.add entry) rest

def items (c : Catalogue) : List Item := c.units.map Declared.item

end Catalogue

end UnitCatalogue
