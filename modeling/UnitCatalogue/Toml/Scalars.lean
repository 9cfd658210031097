import UnitCatalogue.Toml.Scan
import UnitCatalogue.Toml.Value

/-!
# Reading TOML: numbers, truth values and points in time

A scalar other than a string is read as one run of characters and then recognised as a whole.
Points in time are recognised, and nothing more is kept of them. Whole numbers are read in two
stages, of which only the second looks at their digits; it wants room for the value in 128 bits,
with a sign or without one. A decimal number must not round to infinity.
-/

namespace UnitCatalogue.Toml

/-- Whether each underscore stands between digits, told whether a digit stands in front of the
text. -/
def underscoresMeetFrom (isDigit : Char → Bool) : Bool → List Char → Bool
  | _, [] => true
  | digitBefore, c :: rest =>
    if c = '_' then
      digitBefore && rest.head?.any isDigit && underscoresMeetFrom isDigit false rest
    else underscoresMeetFrom isDigit (isDigit c) rest

def underscoresMeet (isDigit : Char → Bool) (text : List Char) : Bool :=
  underscoresMeetFrom isDigit false text

def withoutUnderscores (text : List Char) : List Char := text.filter (· != '_')

def digitValue (c : Char) : Nat :=
  if c.isDigit then c.toNat - '0'.toNat else c.toLower.toNat - 'a'.toNat + 10

def numberValue (base : Nat) (digits : List Char) : Nat :=
  digits.foldl (fun value c => base * value + digitValue c) 0

/-- Whether there is room for a whole number of this size. -/
def wholeFits (negative : Bool) (size : Nat) : Bool :=
  if negative then size ≤ Nat.pow 2 127 else size < Nat.pow 2 128

/-- From here on a number rounds to infinity among binary numbers of 64 bits. -/
def floatLimit : Nat := Nat.pow 2 1024 - Nat.pow 2 970

/-- Whether `significand * 10 ^ exponent` stays below the limit. A power of ten that alone decides
is not computed. -/
def floatFits (significand : Nat) (exponent : Int) : Bool :=
  if significand = 0 then true
  else if 0 < exponent then exponent < 310 && significand * Nat.pow 10 exponent.toNat < floatLimit
  else significand < floatLimit * Nat.pow 10 (min (-exponent).toNat (significand.log2 + 1))

/-- A number in a base, without a sign. Without digits it cannot be read. -/
def basedNumber (base : Nat) (isDigit : Char → Bool) (text : List Char) : Option Scalar :=
  let digits := withoutUnderscores text
  if digits.all isDigit && underscoresMeet isDigit text then
    some (.number (!digits.isEmpty && wholeFits false (numberValue base digits)))
  else none

/-- Whether a minus stands in front, and the text behind the sign. -/
def takeSign : List Char → Bool × List Char
  | '-' :: rest => (true, rest)
  | '+' :: rest => (false, rest)
  | text => (false, text)

def isHexDigit (c : Char) : Bool := c.isDigit || ('a' ≤ c.toLower && c.toLower ≤ 'f')

def isOctalDigit (c : Char) : Bool := '0' ≤ c && c ≤ '7'

def isBinaryDigit (c : Char) : Bool := c == '0' || c == '1'

/-- A whole number with its sign. It begins with zero only if it is zero. Once an underscore has
been met, what follows is looked at only beside underscores, with hexadecimal digits let pass, and
cannot be read unless it is made of digits. -/
def wholeNumber (text : List Char) : Option Scalar :=
  let (negative, body) := takeSign text
  if (body.head? == some '0' && body != ['0']) || !underscoresMeet isHexDigit text then none
  else
    let digits := withoutUnderscores body
    some (.number (digits.all Char.isDigit && wholeFits negative (numberValue 10 digits)))

/-- The digits of a section of a float: at least one, and nothing else but underscores. -/
def sectionDigits (text : List Char) : Option (List Char) :=
  let digits := withoutUnderscores text
  if digits.isEmpty || !digits.all Char.isDigit then none else some digits

/-- The digits in front of the point, which begin with zero only if there is no other. -/
def wholeDigits (text : List Char) : Option (List Char) := do
  let digits ← sectionDigits text
  guard (text.head? ≠ some '0' ∨ digits.length = 1)
  return digits

/-- The digits behind the point, where there is one. -/
def fractionDigits : List Char → Option (List Char)
  | [] => some []
  | '.' :: rest => sectionDigits rest
  | _ => none

/-- The exponent, where there is one. -/
def exponentValue : List Char → Option Int
  | [] => some 0
  | _ :: rest =>
    let (negative, rest) := takeSign rest
    (sectionDigits rest).map fun digits =>
      let size : Nat := numberValue 10 digits
      if negative then -size else size

def isExponentMark (c : Char) : Bool := c == 'e' || c == 'E'

/-- A decimal number with a point, an exponent or both. -/
def decimalFloat (text : List Char) : Option Scalar := do
  guard (underscoresMeet Char.isDigit text)
  let body := (takeSign text).2
  let mantissa := body.takeWhile (!isExponentMark ·)
  let whole ← wholeDigits (mantissa.takeWhile (· != '.'))
  let fraction ← fractionDigits (mantissa.dropWhile (· != '.'))
  let exponent ← exponentValue (body.dropWhile (!isExponentMark ·))
  return .number (floatFits (numberValue 10 (whole ++ fraction)) (exponent - fraction.length))

/-- A decimal number. A point or the mark of an exponent makes it a float; a whole number is made
of digits up to its first underscore. -/
def decimalNumeral (text : List Char) : Option Scalar :=
  let body := (takeSign text).2
  let tail := body.dropWhile Char.isDigit
  if body.isEmpty then none
  else if tail.any fun c => c == '.' || isExponentMark c then decimalFloat text
  else if tail.isEmpty || tail.head? == some '_' then wholeNumber text
  else none

/-- Reads exactly `count` decimal digits. -/
def decimalNumber : Nat → Nat → Reader Nat
  | 0, value, text => some (value, text)
  | count + 1, value, c :: rest =>
    if c.isDigit then decimalNumber count (10 * value + digitValue c) rest else none
  | _ + 1, _, [] => none

def isLeapYear (year : Nat) : Bool := year % 4 == 0 && (year % 100 != 0 || year % 400 == 0)

def monthLength (year month : Nat) : Nat :=
  if month = 2 then (if isLeapYear year then 29 else 28)
  else if month = 4 ∨ month = 6 ∨ month = 9 ∨ month = 11 then 30
  else 31

/-- The text after a calendar date. -/
def afterDate? (text : List Char) : Option (List Char) := do
  let (year, rest) ← decimalNumber 4 0 text
  let (month, rest) ← decimalNumber 2 0 (← expect? '-' rest)
  let (day, rest) ← decimalNumber 2 0 (← expect? '-' rest)
  guard (1 ≤ month ∧ month ≤ 12 ∧ 1 ≤ day ∧ day ≤ monthLength year month)
  return rest

/-- The text after the fraction of a second, where there is one. -/
def afterSecondFraction? : List Char → Option (List Char)
  | '.' :: rest =>
    if (rest.takeWhile Char.isDigit).isEmpty then none else some (rest.dropWhile Char.isDigit)
  | text => some text

/-- The text after a time of day; the seconds may be left out. -/
def afterTime? (text : List Char) : Option (List Char) := do
  let (hour, rest) ← decimalNumber 2 0 text
  let (minute, rest) ← decimalNumber 2 0 (← expect? ':' rest)
  guard (hour ≤ 23 ∧ minute ≤ 59)
  match rest with
  | ':' :: rest =>
    let (second, rest) ← decimalNumber 2 0 rest
    guard (second ≤ 60)
    afterSecondFraction? rest
  | rest => return rest

/-- Whether the text is a distance from universal time, or empty. -/
def isOffset : List Char → Bool
  | [] => true
  | ['Z'] => true
  | ['z'] => true
  | c :: rest =>
    (c == '+' || c == '-') &&
      (match decimalNumber 2 0 rest with
      | some (hour, ':' :: rest) =>
        match decimalNumber 2 0 rest with
        | some (minute, []) => hour ≤ 23 && minute ≤ 59
        | _ => false
      | _ => false)

/-- Whether the text is a date, a time, or a date and a time. -/
def isMoment (text : List Char) : Bool :=
  match afterDate? text with
  | some [] => true
  | some (c :: rest) =>
    (c == 'T' || c == 't' || c == ' ') &&
      (match afterTime? rest with
      | some rest => isOffset rest
      | none => false)
  | none => afterTime? text == some []

/-- Recognises a scalar other than a string. -/
def recognise (text : List Char) : Option Scalar :=
  match text with
  | ['t', 'r', 'u', 'e'] => some (.truth true)
  | ['f', 'a', 'l', 's', 'e'] => some (.truth false)
  | '0' :: 'x' :: rest => basedNumber 16 isHexDigit rest
  | '0' :: 'o' :: rest => basedNumber 8 isOctalDigit rest
  | '0' :: 'b' :: rest => basedNumber 2 isBinaryDigit rest
  | _ =>
    if (takeSign text).2 = ['i', 'n', 'f'] ∨ (takeSign text).2 = ['n', 'a', 'n'] then
      some (.number true)
    else if isMoment text then some .moment
    else decimalNumeral text

/-- The characters that end a run. -/
def isDelimiter (c : Char) : Bool :=
  isBlank c || c == '\r' || c == '\n' || c == '#' || c == '=' || c == ',' || c == '[' || c == ']'
    || c == '{' || c == '}'

def isRunChar (c : Char) : Bool := !isDelimiter c

/-- The run of characters that makes up a scalar. A date and a time of day may have one space
between them. -/
def scalarRun (text : List Char) : List Char × List Char :=
  let run := text.takeWhile isRunChar
  match afterDate? run, text.dropWhile isRunChar with
  | some [], ' ' :: c :: rest =>
    if c.isDigit then
      (run ++ ' ' :: (c :: rest).takeWhile isRunChar, (c :: rest).dropWhile isRunChar)
    else (run, ' ' :: c :: rest)
  | _, rest => (run, rest)

def scalar : Reader Scalar := fun text =>
  let (run, rest) := scalarRun text
  (recognise run).map fun scalar => (scalar, rest)

end UnitCatalogue.Toml
