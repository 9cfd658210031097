import UnitCatalogue.Text.Quoted
import UnitCatalogue.Toml.Scan

/-!
# Reading TOML: strings and keys

Basic strings have escapes, literal strings have none; both have a form of many lines between
three quotes. A key is a sequence of parts with points between them.
-/

namespace UnitCatalogue.Toml

open Text (hexValue?)

/-- Reads exactly `count` hexadecimal digits. -/
def hexNumber : Nat → Nat → Reader Nat
  | 0, value, text => some (value, text)
  | count + 1, value, c :: rest =>
    match hexValue? c with
    | some digit => hexNumber count (16 * value + digit) rest
    | none => none
  | _ + 1, _, [] => none

def numberedChar (count : Nat) : Reader Char := fun text =>
  match hexNumber count 0 text with
  | some (value, rest) => if value.isValidChar then some (Char.ofNat value, rest) else none
  | none => none

/-- The character that an escape stands for, read after its backslash. -/
def escapedChar : Reader Char
  | 'b' :: rest => some ('\x08', rest)
  | 't' :: rest => some ('\t', rest)
  | 'n' :: rest => some ('\n', rest)
  | 'f' :: rest => some ('\x0c', rest)
  | 'r' :: rest => some ('\r', rest)
  | 'e' :: rest => some ('\x1b', rest)
  | '"' :: rest => some ('"', rest)
  | '\\' :: rest => some ('\\', rest)
  | 'x' :: rest => numberedChar 2 rest
  | 'u' :: rest => numberedChar 4 rest
  | 'U' :: rest => numberedChar 8 rest
  | _ => none

/-- One step through a string: some of its characters, and whether it ends with them. -/
inductive Step where
  | last (chars rest : List Char)
  | more (chars rest : List Char)
  | refused

/-- Repeats a step until the string ends, at most `limit` times. -/
def repeatStep (step : List Char → Step) : Nat → Reader (List Char)
  | 0, _ => none
  | limit + 1, text =>
    match step text with
    | .last chars rest => some (chars, rest)
    | .more chars rest =>
      (repeatStep step limit rest).map fun (more, rest) => (chars ++ more, rest)
    | .refused => none

/-- Every step takes a character, so there are no more steps than characters. -/
def steps (step : List Char → Step) : Reader (List Char) := fun text =>
  repeatStep step text.length text

def basicStep : List Char → Step
  | '"' :: rest => .last [] rest
  | '\\' :: rest =>
    match escapedChar rest with
    | some (c, rest) => .more [c] rest
    | none => .refused
  | c :: rest => if isPlain c then .more [c] rest else .refused
  | [] => .refused

def literalStep : List Char → Step
  | '\'' :: rest => .last [] rest
  | c :: rest => if isPlain c then .more [c] rest else .refused
  | [] => .refused

/-- Skips blanks and line ends. -/
def skipLines : Nat → List Char → List Char
  | 0, text => text
  | limit + 1, text =>
    match afterLineEnd? (skipBlanks text) with
    | some rest => skipLines limit rest
    | none => skipBlanks text

/-- A run of quotes in a string of many lines. Three end the string, and up to two may stand
before those. -/
def quoteRun (quote : Char) (text : List Char) : Step :=
  let run := text.takeWhile (· == quote)
  let rest := text.dropWhile (· == quote)
  if run.length < 3 then .more run rest
  else if run.length ≤ 5 then .last (run.drop 3) rest
  else .refused

/-- A character of a string of many lines that is neither a quote nor an escape. -/
def longChar : List Char → Step
  | '\n' :: rest => .more ['\n'] rest
  | '\r' :: '\n' :: rest => .more ['\r', '\n'] rest
  | c :: rest => if isPlain c then .more [c] rest else .refused
  | [] => .refused

/-- What follows a backslash: before a line end it skips the space up to the next text. -/
def longEscape (text : List Char) : Step :=
  match afterLineEnd? (skipBlanks text) with
  | some rest => .more [] (skipLines rest.length rest)
  | none =>
    match escapedChar text with
    | some (c, rest) => .more [c] rest
    | none => .refused

def longBasicStep : List Char → Step
  | '"' :: rest => quoteRun '"' ('"' :: rest)
  | '\\' :: rest => longEscape rest
  | text => longChar text

def longLiteralStep : List Char → Step
  | '\'' :: rest => quoteRun '\'' ('\'' :: rest)
  | text => longChar text

/-- A line end right after the opening quotes is not part of the string. -/
def skipFirstLineEnd (text : List Char) : List Char := (afterLineEnd? text).getD text

/-- A string on one line. -/
def shortString : Reader String
  | '"' :: rest => (steps basicStep rest).map fun (chars, rest) => (String.ofList chars, rest)
  | '\'' :: rest => (steps literalStep rest).map fun (chars, rest) => (String.ofList chars, rest)
  | _ => none

/-- A string of any of the four forms. -/
def string : Reader String
  | '"' :: '"' :: '"' :: rest =>
    (steps longBasicStep (skipFirstLineEnd rest)).map fun (chars, rest) =>
      (String.ofList chars, rest)
  | '\'' :: '\'' :: '\'' :: rest =>
    (steps longLiteralStep (skipFirstLineEnd rest)).map fun (chars, rest) =>
      (String.ofList chars, rest)
  | text => shortString text

def isBareKeyChar (c : Char) : Bool := c.isAlphanum || c == '_' || c == '-'

def bareKey : Reader String := fun text =>
  let bare := text.takeWhile isBareKeyChar
  if bare.isEmpty then none else some (String.ofList bare, text.dropWhile isBareKeyChar)

/-- One part of a key: bare, or a string on one line. -/
def keyPart : Reader String := fun text =>
  match text.head? with
  | some '"' | some '\'' => shortString text
  | _ => bareKey text

/-- The parts of a key after the first, each behind a point with blanks around it. -/
def keyParts : Nat → Reader (List String)
  | 0, text => some ([], skipBlanks text)
  | limit + 1, text =>
    match skipBlanks text with
    | '.' :: rest => do
      let (part, rest) ← keyPart (skipBlanks rest)
      let (parts, rest) ← keyParts limit rest
      return (part :: parts, rest)
    | rest => some ([], rest)

/-- A key: the parts that lead to it, and its last part. -/
structure Key where
  path : List String
  last : String
deriving DecidableEq, Inhabited

/-- Reads a key and the blanks after it. -/
def key : Reader Key := fun text => do
  let (first, rest) ← keyPart text
  let (more, rest) ← keyParts rest.length rest
  let parts := first :: more
  guard (parts.length ≤ maxDepth)
  return (⟨parts.dropLast, parts.getLastD first⟩, rest)

end UnitCatalogue.Toml
