import UnitCatalogue.Decimal.Shortest

/-!
# Numbers as text

Digits in positional notation, never with an exponent, and with a point only where a fraction
follows it.
-/

namespace UnitCatalogue.Decimal

def natText (n : Nat) : List Char := Nat.toDigits 10 n

def intText (n : Int) : List Char :=
  if n < 0 then '-' :: natText n.natAbs else natText n.natAbs

/-- Puts a point before the last `places` digits. -/
def withPoint (digits : List Char) (places : Nat) : List Char :=
  if places < digits.length then
    digits.take (digits.length - places) ++ '.' :: digits.drop (digits.length - places)
  else
    '0' :: '.' :: List.replicate (places - digits.length) '0' ++ digits

def Scientific.text (x : Scientific) : List Char :=
  if 0 ≤ x.exponent then natText x.digits ++ List.replicate x.exponent.toNat '0'
  else withPoint (natText x.digits) (-x.exponent).toNat

def signed (negative : Bool) (text : List Char) : List Char :=
  if negative then '-' :: text else text

/-- The fewest digits that read back, in positional notation. -/
def Binary64.text (x : Binary64) : List Char :=
  match x.meaning with
  | .notNumber => ['N', 'a', 'N']
  | .infinite negative => signed negative ['i', 'n', 'f']
  | .finite negative significand exponent =>
    if significand = 0 then signed negative ['0']
    else
      let rounding : Rounding := ⟨significand, exponent, x.narrowBelow⟩
      signed negative rounding.shortest.text

end UnitCatalogue.Decimal
