import UnitCatalogue.Decimal.Binary64

/-!
# The shortest decimal of a binary number

Among the decimals that round to a number, the ones on the coarsest power of ten are kept, and
of those the one nearest to the number; of two equally near the larger. Each grid is tested in
exact whole-number arithmetic at the two neighbours of the number.
-/

namespace UnitCatalogue.Decimal

/-- A decimal number `digits * 10 ^ exponent`. -/
structure Scientific where
  digits : Nat
  exponent : Int
deriving DecidableEq

/-- The quotient `quarters * 2 ^ exponent / 10 ^ grid` as numerator and denominator. -/
def numerator (quarters : Nat) (exponent grid : Int) : Nat :=
  quarters * Nat.pow 2 exponent.toNat * Nat.pow 10 (-grid).toNat

def denominator (exponent grid : Int) : Nat :=
  Nat.pow 2 (-exponent).toNat * Nat.pow 10 grid.toNat

/-- The numbers that round to `significand * 2 ^ exponent`, measured in quarters of its last
place. The ends belong to it when the significand is even. -/
structure Rounding where
  significand : Nat
  exponent : Int
  narrowBelow : Bool

namespace Rounding

def low (r : Rounding) (grid : Int) : Nat :=
  numerator (4 * r.significand - (if r.narrowBelow then 1 else 2)) (r.exponent - 2) grid

def middle (r : Rounding) (grid : Int) : Nat :=
  numerator (4 * r.significand) (r.exponent - 2) grid

def high (r : Rounding) (grid : Int) : Nat :=
  numerator (4 * r.significand + 2) (r.exponent - 2) grid

def unit (r : Rounding) (grid : Int) : Nat := denominator (r.exponent - 2) grid

/-- Whether `digits * 10 ^ grid` rounds to the number. -/
def holds (r : Rounding) (grid : Int) (digits : Nat) : Bool :=
  let point := digits * r.unit grid
  if r.significand % 2 = 0 then r.low grid ≤ point && point ≤ r.high grid
  else r.low grid < point && point < r.high grid

/-- The multiple of `10 ^ grid` just below the number, or the number itself. -/
def below (r : Rounding) (grid : Int) : Nat := r.middle grid / r.unit grid

/-- The nearest multiple of `10 ^ grid` that rounds to the number. -/
def onGrid? (r : Rounding) (grid : Int) : Option Nat :=
  let down := r.below grid
  let up := down + 1
  match r.holds grid down, r.holds grid up with
  | true, true =>
    if r.middle grid - down * r.unit grid < up * r.unit grid - r.middle grid then some down
    else some up
  | true, false => some down
  | false, true => some up
  | false, false => none

/-- Tries finer and finer grids; the last one holds the number itself. -/
def search (r : Rounding) : Nat → Int → Scientific
  | 0, grid => ⟨r.below grid, grid⟩
  | steps + 1, grid =>
    match r.onGrid? grid with
    | some digits => ⟨digits, grid⟩
    | none => search r steps (grid - 1)

/-- A power of ten above every number that rounds to this one. -/
def coarsest (r : Rounding) : Int :=
  (r.exponent + r.significand.log2 + 1) * 30103 / 100000 + 2

/-- A power of ten of which the number is a multiple. -/
def finest (r : Rounding) : Int := min r.exponent 0

def shortest (r : Rounding) : Scientific :=
  r.search (r.coarsest - r.finest).toNat r.coarsest

end Rounding

end UnitCatalogue.Decimal
