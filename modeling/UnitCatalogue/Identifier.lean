import UnitCatalogue.Text.Blank
import UnitCatalogue.Text.Uppercase

/-!
# Identifiers from display names

A display name becomes an identifier in four steps: a sequence of substitutions, upper case,
an underscore for every character that an identifier cannot hold, and one underscore for each
run of them. A digit in front gets an underscore before it. A blank name has no identifier,
which is written as the empty one.
-/

namespace UnitCatalogue.Identifier

open Text

/-- Replaces every occurrence of one character, or of two characters in a row from the left. -/
inductive Substitution where
  | single (c : Char) (replacement : List Char)
  | pair (c d : Char) (replacement : List Char)
deriving DecidableEq

def replaceSingle (c : Char) (replacement : List Char) (text : List Char) : List Char :=
  text.flatMap fun x => if x = c then replacement else [x]

def replacePair (c d : Char) (replacement : List Char) : List Char → List Char
  | x :: y :: rest =>
    if x = c ∧ y = d then replacement ++ replacePair c d replacement rest
    else x :: replacePair c d replacement (y :: rest)
  | rest => rest

def Substitution.apply : Substitution → List Char → List Char
  | .single c replacement => replaceSingle c replacement
  | .pair c d replacement => replacePair c d replacement

/-- Each substitution sees the output of those before it. -/
def substitutions : List Substitution :=
  [.single ' ' ['_'],
   .single ',' ['_'],
   .single '.' ['_'],
   .single '-' ['_'],
   .single '/' ['_', 'P', 'E', 'R', '_'],
   .single '%' ['P', 'E', 'R', 'C', 'E', 'N', 'T'],
   .single '[' [],
   .single ']' [],
   .single '(' [],
   .single ')' [],
   .single '\'' [],
   .single '8' ['E', 'I', 'G', 'H', 'T'],
   .pair '1' '5' ['F', 'I', 'F', 'T', 'E', 'E', 'N'],
   .pair '3' '0' ['T', 'H', 'I', 'R', 'T', 'Y'],
   .single '\\' ['_'],
   .single '\u00a0' ['_'],
   .single '\u00b0' ['D', 'E', 'G', '_'],
   .single '\u00ba' ['D', 'E', 'G', '_'],
   .single '\u2013' ['_']]

def substituteAll (text : List Char) : List Char :=
  substitutions.foldl (fun text substitution => substitution.apply text) text

/-- The characters of an identifier. -/
def isPart (c : Char) : Bool := c.isUpper || c.isDigit || c == '_'

def maskOthers (text : List Char) : List Char := text.map fun c => if isPart c then c else '_'

/-- Keeps the last underscore of each run. -/
def collapse : List Char → List Char
  | [] => []
  | c :: rest => if c = '_' ∧ rest.head? = some '_' then collapse rest else c :: collapse rest

def guardDigit : List Char → List Char
  | [] => []
  | c :: rest => if c.isDigit then '_' :: c :: rest else c :: rest

def key (name : List Char) : List Char :=
  if allBlank name then []
  else guardDigit (collapse (maskOthers (upper (substituteAll name))))

def ofName (name : String) : String := String.ofList (key name.toList)

/-- Nothing but underscores names no unit. -/
def isUnusable (identifier : String) : Bool := identifier.toList.all (· == '_')

end UnitCatalogue.Identifier
