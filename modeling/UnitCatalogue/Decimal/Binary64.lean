/-!
# Binary floating-point numbers of 64 bits

A number is held by its bits, and its value is read off them as a significand times a power of
two. All arithmetic on values is exact.
-/

namespace UnitCatalogue.Decimal

structure Binary64 where
  bits : UInt64
deriving DecidableEq

/-- What 64 bits denote. A finite value is `significand * 2 ^ exponent`, with a sign. -/
inductive Meaning where
  | notNumber
  | infinite (negative : Bool)
  | finite (negative : Bool) (significand : Nat) (exponent : Int)
deriving DecidableEq

namespace Binary64

def negative (x : Binary64) : Bool := Nat.pow 2 63 ≤ x.bits.toNat

def biasedExponent (x : Binary64) : Nat := x.bits.toNat / Nat.pow 2 52 % Nat.pow 2 11

def fraction (x : Binary64) : Nat := x.bits.toNat % Nat.pow 2 52

def meaning (x : Binary64) : Meaning :=
  if x.biasedExponent = 2047 then
    if x.fraction = 0 then .infinite x.negative else .notNumber
  else if x.biasedExponent = 0 then .finite x.negative x.fraction (-1074)
  else .finite x.negative (Nat.pow 2 52 + x.fraction) (x.biasedExponent - 1075)

/-- Whether the next smaller value lies half as far away as the next larger one. -/
def narrowBelow (x : Binary64) : Bool := x.fraction == 0 && 1 < x.biasedExponent

/-- The value, if it is a whole number. -/
def whole? (x : Binary64) : Option Int :=
  match x.meaning with
  | .finite negative significand exponent =>
    let divisor := Nat.pow 2 (-exponent).toNat
    if significand % divisor = 0 then
      let size : Nat := significand / divisor * Nat.pow 2 exponent.toNat
      some (if negative then -size else size)
    else none
  | _ => none

end Binary64

end UnitCatalogue.Decimal
