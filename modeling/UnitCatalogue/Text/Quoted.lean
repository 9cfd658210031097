import UnitCatalogue.Text.Combining
import UnitCatalogue.Text.Hidden

/-!
# Quoted text

Text between double quotes, with escapes for the characters that could end it, break its line
or stay unseen. Two styles share every rule but two: the literals of a generated module and the
labels of a message. `readQuoted` reads a quoted text back and says what follows it; it knows
every escape of a string literal, also those that neither style writes.
-/

namespace UnitCatalogue.Text

/-- The two decisions on which the styles differ. -/
structure QuoteStyle where
  escapesApostrophe : Bool
  /-- Whether a combining character is escaped wherever it stands or only at the start. -/
  escapesEveryCombining : Bool

def QuoteStyle.literal : QuoteStyle := ⟨true, false⟩

def QuoteStyle.message : QuoteStyle := ⟨false, true⟩

/-- The letter after the backslash of a two-character escape. -/
def shortEscape? : Char → Option Char
  | '\x00' => some '0'
  | '\t' => some 't'
  | '\r' => some 'r'
  | '\n' => some 'n'
  | '\\' => some '\\'
  | '"' => some '"'
  | _ => none

def numberEscape (c : Char) : List Char :=
  ['\\', 'u', '{'] ++ Nat.toDigits 16 c.toNat ++ ['}']

def QuoteStyle.escape (style : QuoteStyle) (first : Bool) (c : Char) : List Char :=
  match shortEscape? c with
  | some letter => ['\\', letter]
  | none =>
    if style.escapesApostrophe && c == '\'' then ['\\', '\'']
    else if isCombining c && (first || style.escapesEveryCombining) then numberEscape c
    else if isHidden c then numberEscape c
    else [c]

def QuoteStyle.body (style : QuoteStyle) : List Char → List Char
  | [] => []
  | c :: rest => style.escape true c ++ rest.flatMap (style.escape false)

def QuoteStyle.quote (style : QuoteStyle) (text : List Char) : List Char :=
  '"' :: style.body text ++ ['"']

/-- The text as a string literal of the generated module. -/
def literal (text : String) : String := String.ofList (QuoteStyle.literal.quote text.toList)

/-- The text as a message shows it. -/
def shown (text : String) : String := String.ofList (QuoteStyle.message.quote text.toList)

/-- Where a reader stands inside a quoted text. -/
inductive QuoteState where
  /-- In the text itself. Behind a line end that a backslash takes out of the text, the blanks
  that follow are skipped too. -/
  | plain (skipping : Bool)
  | afterBackslash
  | afterByteSign
  | inByte (high : Nat)
  | afterNumberSign
  | inNumber (value digits : Nat)

/-- The blanks that a line end with a backslash before it takes out of the text. -/
def isLineBlank (c : Char) : Bool := c == ' ' || c == '\t' || c == '\n' || c == '\r'

def hexValue? (c : Char) : Option Nat :=
  if '0' ≤ c ∧ c ≤ '9' then some (c.toNat - '0'.toNat)
  else if 'a' ≤ c ∧ c ≤ 'f' then some (c.toNat - 'a'.toNat + 10)
  else if 'A' ≤ c ∧ c ≤ 'F' then some (c.toNat - 'A'.toNat + 10)
  else none

/-- The character that a two-character escape stands for. -/
def shortMeaning? : Char → Option Char
  | '0' => some '\x00'
  | 't' => some '\t'
  | 'r' => some '\r'
  | 'n' => some '\n'
  | '\\' => some '\\'
  | '"' => some '"'
  | '\'' => some '\''
  | _ => none

def prepend (c : Char) (result : List Char × List Char) : List Char × List Char :=
  (c :: result.1, result.2)

/-- Reads up to the closing quote: the text, and what follows it. A bare carriage return, an
unknown escape and a number that names no character are refused. -/
def readBody : QuoteState → List Char → Option (List Char × List Char)
  | _, [] => none
  | .plain skipping, c :: rest =>
    if skipping && isLineBlank c then readBody (.plain true) rest
    else if c = '"' then some ([], rest)
    else if c = '\\' then readBody .afterBackslash rest
    else if c = '\r' then none
    else (readBody (.plain false) rest).map (prepend c)
  | .afterBackslash, c :: rest =>
    if c = 'x' then readBody .afterByteSign rest
    else if c = 'u' then readBody .afterNumberSign rest
    else if c = '\n' then readBody (.plain true) rest
    else match shortMeaning? c with
      | some meant => (readBody (.plain false) rest).map (prepend meant)
      | none => none
  | .afterByteSign, c :: rest =>
    match hexValue? c with
    | some high => if high < 8 then readBody (.inByte high) rest else none
    | none => none
  | .inByte high, c :: rest =>
    match hexValue? c with
    | some low => (readBody (.plain false) rest).map (prepend (Char.ofNat (16 * high + low)))
    | none => none
  | .afterNumberSign, c :: rest => if c = '{' then readBody (.inNumber 0 0) rest else none
  | .inNumber value digits, c :: rest =>
    if c = '}' then
      if 0 < digits ∧ value.isValidChar then
        (readBody (.plain false) rest).map (prepend (Char.ofNat value))
      else none
    else if c = '_' then if 0 < digits then readBody (.inNumber value digits) rest else none
    else match hexValue? c with
      | some digit => if digits < 6 then readBody (.inNumber (16 * value + digit) (digits + 1)) rest
          else none
      | none => none

/-- Reads a quoted text from the start: its meaning, and what follows the closing quote. -/
def readQuoted : List Char → Option (List Char × List Char)
  | '"' :: rest => readBody (.plain false) rest
  | _ => none

end UnitCatalogue.Text
