import UnitCatalogue.Entry
import UnitCatalogue.Text.Quoted

/-!
# Lines of the generated module

Every unit has two lines: the declaration of its constant, and its registration in the array of
all units.
-/

namespace UnitCatalogue

/-- One unit as the generated module holds it. -/
structure Item where
  identifier : String
  name : String
  declaration : String
  registration : String
deriving DecidableEq, Inhabited

def optionalLiteral : Option String → String
  | none => "None"
  | some text => "Some(" ++ Text.literal text ++ ")"

def declarationLine (identifier : String) (entry : Entry) : String :=
  "pub const " ++ identifier ++ ": UnitDescriptor = UnitDescriptor \x7b name: "
    ++ Text.literal entry.name ++ ", code: " ++ optionalLiteral entry.code
    ++ ", suffix: " ++ optionalLiteral entry.suffix ++ " \x7d;"

def declaration (identifier : String) (entry : Entry) : String :=
  declarationLine identifier entry ++ "\n"

def registrationLine (identifier : String) : String := "    " ++ identifier ++ ","

def registration (identifier : String) : String := registrationLine identifier ++ "\n"

/-- The declaration of a further name for a constant. -/
def Alias.line (a : Alias) : String :=
  "pub const " ++ a.name ++ ": UnitDescriptor = " ++ a.target ++ ";"

def Alias.declaration (a : Alias) : String := a.line ++ "\n"

/-- A unit under the identifier that the module gives it. -/
structure Declared where
  identifier : String
  entry : Entry
deriving DecidableEq, Inhabited

def Declared.item (unit : Declared) : Item where
  identifier := unit.identifier
  name := unit.entry.name
  declaration := declaration unit.identifier unit.entry
  registration := registration unit.identifier

end UnitCatalogue
