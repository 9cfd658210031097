/-!
# Values of a TOML document

What a parser makes of a text: values under keys, in tables where no key stands twice.
-/

namespace UnitCatalogue.Toml

/-- How a table came to be, which decides what may still be added to it. -/
inductive Origin where
  /-- Named by a header of its own. -/
  | header
  /-- Named only on the way to a deeper header. -/
  | passage
  /-- Named by the front parts of a dotted key. -/
  | dotted
  /-- Written in braces. -/
  | braces
deriving DecidableEq, Inhabited

/-- Of a number only this is kept: whether it is one that can be read. What is written as a number
may be malformed or too large, and then it may stand only where no value is looked at. -/
inductive Scalar where
  | text (content : String)
  | number (readable : Bool)
  | truth (value : Bool)
  /-- A date, a time of day, or both. -/
  | moment
deriving DecidableEq, Inhabited

def Scalar.isReadable : Scalar → Bool
  | number readable => readable
  | _ => true

inductive Value where
  | scalar (content : Scalar)
  /-- Written in brackets. -/
  | array (items : List Value)
  /-- Grown by headers in double brackets. -/
  | tables (items : List Value)
  | table (origin : Origin) (fields : List (String × Value))
deriving Inhabited

abbrev Fields := List (String × Value)

/-- No table in the value has a key twice. -/
inductive Value.KeysDistinct : Value → Prop where
  | scalar {content : Scalar} : KeysDistinct (.scalar content)
  | array {items : List Value} :
      (∀ item ∈ items, KeysDistinct item) → KeysDistinct (.array items)
  | tables {items : List Value} :
      (∀ item ∈ items, KeysDistinct item) → KeysDistinct (.tables items)
  | table {origin : Origin} {fields : List (String × Value)} :
      (fields.map Prod.fst).Nodup → (∀ field ∈ fields, KeysDistinct field.2) →
      KeysDistinct (.table origin fields)

structure Fields.KeysDistinct (fields : Fields) : Prop where
  nodup : (fields.map Prod.fst).Nodup
  values : ∀ field ∈ fields, field.2.KeysDistinct

/-- A parser of documents. Whatever it takes for a document has no key twice in a table. -/
structure Parser where
  parse? : String → Option Fields
  keysDistinct {text : String} {document : Fields} :
    parse? text = some document → document.KeysDistinct
  /-- What is told of a text that is no document, or one that does not fit. -/
  refusal : String → String

/-- Changes what stands under a key, or adds it at the end; `change` may refuse. -/
def Fields.alter? (key : String) (change : Option Value → Option Value) : Fields → Option Fields
  | [] => (change none).map fun value => [(key, value)]
  | (k, value) :: rest =>
    if k = key then (change (some value)).map fun value => (k, value) :: rest
    else (Fields.alter? key change rest).map fun rest => (k, value) :: rest

end UnitCatalogue.Toml
