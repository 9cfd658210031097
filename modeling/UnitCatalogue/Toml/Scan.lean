/-!
# Reading TOML: blanks, comments and line ends

A reader takes the characters that are left and gives a result with the characters after it, or
refuses.
-/

namespace UnitCatalogue.Toml

abbrev Reader (α : Type) := List Char → Option (α × List Char)

def isBlank (c : Char) : Bool := c == ' ' || c == '\t'

/-- Control characters other than the tab stand nowhere in a document as themselves. -/
def isPlain (c : Char) : Bool := c == '\t' || (' ' ≤ c && c != '\x7f')

def skipBlanks (text : List Char) : List Char := text.dropWhile isBlank

/-- The text after a line end, if one stands here. -/
def afterLineEnd? : List Char → Option (List Char)
  | '\n' :: rest => some rest
  | '\r' :: '\n' :: rest => some rest
  | _ => none

/-- Skips a comment, if one stands here, up to its line end. -/
def skipComment : List Char → List Char
  | '#' :: rest => rest.dropWhile isPlain
  | text => text

/-- Skips blanks and a comment; then the line or the document must end. -/
def finishLine? (text : List Char) : Option (List Char) :=
  match skipComment (skipBlanks text) with
  | [] => some []
  | rest => afterLineEnd? rest

/-- Skips blanks, line ends and comments, from within a comment or from outside one. A comment
goes up to its line end. -/
def skipSpaceFrom : Bool → List Char → List Char
  | _, '\n' :: rest => skipSpaceFrom false rest
  | _, '\r' :: '\n' :: rest => skipSpaceFrom false rest
  | true, c :: rest => if isPlain c then skipSpaceFrom true rest else c :: rest
  | false, c :: rest =>
    if isBlank c then skipSpaceFrom false rest
    else if c = '#' then skipSpaceFrom true rest
    else c :: rest
  | _, [] => []

def skipSpace (text : List Char) : List Char := skipSpaceFrom false text

/-- Takes exactly this character. -/
def expect? (c : Char) : List Char → Option (List Char)
  | d :: rest => if d = c then some rest else none
  | [] => none

/-- A limit of this reader, which the language does not set: how many parts a key may have, and how
deep brackets and braces may be nested. -/
def maxDepth : Nat := 80

end UnitCatalogue.Toml
