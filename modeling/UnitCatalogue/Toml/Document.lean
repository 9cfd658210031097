import UnitCatalogue.Toml.Scalars
import UnitCatalogue.Toml.Strings
import UnitCatalogue.Toml.Table

/-!
# TOML documents

A document is a sequence of statements, one to a line: a header, or a key with its value. Inside
brackets and braces lines may end anywhere but within a key, and the last item may be followed by
a comma.
-/

namespace UnitCatalogue.Toml

/-- Items up to the closing bracket. -/
def items (item : Reader Value) : Nat → Reader (List Value)
  | 0, _ => none
  | limit + 1, text =>
    match skipSpace text with
    | ']' :: rest => some ([], rest)
    | text => do
      let (value, rest) ← item text
      match skipSpace rest with
      | ',' :: rest =>
        let (values, rest) ← items item limit rest
        return (value :: values, rest)
      | ']' :: rest => return ([value], rest)
      | _ => none

/-- A key, the sign between them, and a value. What may stand around the sign is skipped. -/
def assignment (skip : List Char → List Char) (item : Reader Value) : Reader (Key × Value) :=
  fun text => do
    let (key, rest) ← key text
    let rest ← expect? '=' (skip rest)
    let (value, rest) ← item (skip rest)
    return ((key, value), rest)

/-- Assignments up to the closing brace, added to the fields before them. -/
def assignments (item : Reader Value) : Nat → Fields → Reader Fields
  | 0, _, _ => none
  | limit + 1, fields, text =>
    match skipSpace text with
    | '}' :: rest => some (fields, rest)
    | text => do
      let ((key, value), rest) ← assignment skipSpace item text
      let fields ← fields.addDotted? key.path key.last value
      match skipSpace rest with
      | ',' :: rest => assignments item limit fields rest
      | '}' :: rest => return (fields, rest)
      | _ => none

/-- A string or another scalar. -/
def plainValue : Reader Value := fun text =>
  match text.head? with
  | some '"' | some '\'' => (string text).map fun (content, rest) =>
      (.scalar (.text content), rest)
  | _ => (scalar text).map fun (content, rest) => (.scalar content, rest)

/-- A value, with brackets and braces nested at most `depth` deep. -/
def value : Nat → Reader Value
  | 0, text => plainValue text
  | depth + 1, text =>
    match text with
    | '[' :: rest => (items (value depth) rest.length rest).map fun (values, rest) =>
        (.array values, rest)
    | '{' :: rest => (assignments (value depth) rest.length [] rest).map fun (fields, rest) =>
        (.table .braces fields, rest)
    | _ => plainValue text

/-- What has been read of a document: its fields, and the path of the header in force. -/
structure Draft where
  fields : Fields := []
  header : List String := []
deriving Inhabited

/-- One statement. -/
def statement (draft : Draft) : Reader Draft := fun text =>
  match text with
  | '[' :: '[' :: rest => do
    let (key, rest) ← key (skipBlanks rest)
    let rest ← expect? ']' (← expect? ']' rest)
    let fields ← draft.fields.within? key.path (Fields.openNextTable? key.last)
    return (⟨fields, key.path ++ [key.last]⟩, rest)
  | '[' :: rest => do
    let (key, rest) ← key (skipBlanks rest)
    let rest ← expect? ']' rest
    let fields ← draft.fields.within? key.path (Fields.openTable? key.last)
    return (⟨fields, key.path ++ [key.last]⟩, rest)
  | _ => do
    let ((key, value), rest) ← assignment skipBlanks (value maxDepth) text
    let fields ← draft.fields.within? draft.header (Fields.addDotted? key.path key.last value)
    return ({ draft with fields := fields }, rest)

/-- The statements of a document, and the lines without one. -/
def statements : Nat → Draft → List Char → Option Draft
  | 0, draft, text => if text.isEmpty then some draft else none
  | limit + 1, draft, text =>
    match skipBlanks text with
    | [] => some draft
    | text =>
      match finishLine? text with
      | some rest => statements limit draft rest
      | none => do
        let (draft, rest) ← statement draft text
        statements limit draft (← finishLine? rest)

/-- A mark of the encoding in front of the text is not part of the document. -/
def skipByteOrderMark : List Char → List Char
  | '\ufeff' :: rest => rest
  | text => text

/-- The fields of a document, or nothing if the text is no document. -/
def parse? (text : String) : Option Fields :=
  let chars := skipByteOrderMark text.toList
  (statements chars.length {} chars).map Draft.fields

end UnitCatalogue.Toml
