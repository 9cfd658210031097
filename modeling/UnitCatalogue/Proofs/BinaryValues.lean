import Mathlib
import UnitCatalogue.Decimal.Binary64

/-!
# Values of binary numbers

A finite number has a rational value, told by its significand and its exponent. Every small
significand with an exponent in range is the value of some number, and apart from the two zeros a
value belongs to one number only.
-/

namespace UnitCatalogue.Decimal

theorem zpow_eq_toNat_div (base : ℚ) (exponent : ℤ) :
    base ^ exponent = base ^ exponent.toNat / base ^ (-exponent).toNat := by
  obtain ⟨n, rfl | rfl⟩ := exponent.eq_nat_or_neg <;> simp

def signOf (negative : Bool) : ℚ := if negative then -1 else 1

theorem signOf_mul_self (negative : Bool) : signOf negative * signOf negative = 1 := by
  cases negative <;> simp [signOf]

theorem signOf_mul_natAbs (n : ℤ) : signOf (decide (n < 0)) * (n.natAbs : ℚ) = n := by
  obtain negative | positive := lt_or_ge n 0
  · rw [Nat.cast_natAbs, abs_of_neg negative]
    simp [signOf, negative]
  · rw [Nat.cast_natAbs, abs_of_nonneg positive]
    simp [signOf, not_lt.mpr positive]

/-- Significand and exponent as 64 bits can hold them. -/
structure IsEncoded (significand : ℕ) (exponent : ℤ) : Prop where
  small : significand < 2 ^ 53
  low : -1074 ≤ exponent
  high : exponent ≤ 971
  normal : -1074 < exponent → 2 ^ 52 ≤ significand

namespace Binary64

/-- The value of a finite number. -/
def value? (x : Binary64) : Option ℚ :=
  match x.meaning with
  | .finite negative significand exponent =>
    some (signOf negative * (significand * 2 ^ exponent))
  | _ => none

variable {x y : Binary64} {negative : Bool} {significand : ℕ} {exponent : ℤ}

theorem fraction_lt (x : Binary64) : x.fraction < 2 ^ 52 := Nat.mod_lt _ (by norm_num)

theorem biasedExponent_lt (x : Binary64) : x.biasedExponent < 2 ^ 11 := Nat.mod_lt _ (by norm_num)

/-- The two ways in which the bits tell a finite number. -/
theorem meaning_eq_finite_iff : x.meaning = .finite negative significand exponent ↔
    x.negative = negative ∧
    (x.biasedExponent = 0 ∧ significand = x.fraction ∧ exponent = -1074 ∨
      0 < x.biasedExponent ∧ x.biasedExponent < 2047 ∧ significand = 2 ^ 52 + x.fraction ∧
        exponent = x.biasedExponent - 1075) := by
  have bound := x.biasedExponent_lt
  unfold meaning
  split
  · split <;> simp <;> omega
  · split
    · next zero =>
      rw [Meaning.finite.injEq]
      constructor
      · rintro ⟨rfl, rfl, rfl⟩
        exact ⟨rfl, Or.inl ⟨zero, rfl, rfl⟩⟩
      · rintro ⟨rfl, ⟨_, rfl, rfl⟩ | ⟨positive, _⟩⟩
        · exact ⟨rfl, rfl, rfl⟩
        · omega
    · next nonzero =>
      rw [Meaning.finite.injEq]
      constructor
      · rintro ⟨rfl, rfl, rfl⟩
        exact ⟨rfl, Or.inr ⟨by omega, by omega, rfl, rfl⟩⟩
      · rintro ⟨rfl, ⟨zero, _⟩ | ⟨_, _, rfl, rfl⟩⟩
        · exact absurd zero nonzero
        · exact ⟨rfl, rfl, rfl⟩

theorem isEncoded_of_meaning (told : x.meaning = .finite negative significand exponent) :
    IsEncoded significand exponent := by
  have bound := x.fraction_lt
  obtain ⟨_, ⟨_, rfl, rfl⟩ | ⟨_, _, rfl, rfl⟩⟩ := meaning_eq_finite_iff.mp told
  · exact ⟨by omega, by omega, by omega, by omega⟩
  · exact ⟨by omega, by omega, by omega, by omega⟩

theorem narrowBelow_iff (told : x.meaning = .finite negative significand exponent) :
    x.narrowBelow = true ↔ significand = 2 ^ 52 ∧ -1074 < exponent := by
  have bound := x.fraction_lt
  simp only [narrowBelow, Bool.and_eq_true, beq_iff_eq, decide_eq_true_eq]
  obtain ⟨_, ⟨_, rfl, rfl⟩ | ⟨_, _, rfl, rfl⟩⟩ := meaning_eq_finite_iff.mp told
  · omega
  · omega

/-- The last bit of the significand is the last bit of all. -/
theorem even_iff (told : x.meaning = .finite negative significand exponent) :
    Even x.bits.toNat ↔ Even significand := by
  have last : x.fraction % 2 = x.bits.toNat % 2 := by
    simp only [fraction, Nat.pow_eq]
    omega
  rw [Nat.even_iff, Nat.even_iff]
  obtain ⟨_, ⟨_, rfl, _⟩ | ⟨_, _, rfl, _⟩⟩ := meaning_eq_finite_iff.mp told <;> omega

theorem eq_of_meaning (told : x.meaning = .finite negative significand exponent)
    (told' : y.meaning = .finite negative significand exponent) : x = y := by
  have bits : x.bits.toNat = y.bits.toNat := by
    have bound := x.bits.toNat_lt
    have bound' := y.bits.toNat_lt
    have fraction := x.fraction_lt
    have fraction' := y.fraction_lt
    obtain ⟨sign, parts⟩ := meaning_eq_finite_iff.mp told
    obtain ⟨sign', parts'⟩ := meaning_eq_finite_iff.mp told'
    have same : decide (2 ^ 63 ≤ x.bits.toNat) = decide (2 ^ 63 ≤ y.bits.toNat) :=
      sign.trans sign'.symm
    rw [decide_eq_decide] at same
    simp only [Binary64.fraction, biasedExponent, Nat.pow_eq] at *
    omega
  cases x
  cases y
  congr
  exact UInt64.toNat_inj.mp bits

theorem value?_eq_some_iff {value : ℚ} : x.value? = some value ↔
    ∃ negative significand exponent, x.meaning = .finite negative significand exponent ∧
      value = signOf negative * (significand * 2 ^ exponent) := by
  unfold value?
  cases x.meaning with
  | notNumber => simp
  | infinite negative => simp
  | finite negative significand exponent => simp [eq_comm]

end Binary64

theorem two_zpow_of_le {low high : ℤ} (ordered : low ≤ high) :
    (2 : ℚ) ^ high = (2 ^ (high - low).toNat : ℕ) * 2 ^ low := by
  obtain ⟨steps, rfl⟩ := Int.le.dest ordered
  have length : (low + steps - low).toNat = steps := by omega
  rw [length, zpow_add₀ (by norm_num), zpow_natCast, mul_comm]
  push_cast
  rfl

/-- A coarser exponent needs a significand that is too large for the finer one. -/
theorem IsEncoded.exponent_le {m m' : ℕ} {e e' : ℤ} (encoded : IsEncoded m e)
    (encoded' : IsEncoded m' e') (same : (m : ℚ) * 2 ^ e = m' * 2 ^ e') : e' ≤ e := by
  by_contra finer
  have large := encoded'.normal (by have := encoded.low; omega)
  rw [two_zpow_of_le (show e ≤ e' by omega), ← mul_assoc] at same
  have scaled : m = m' * 2 ^ (e' - e).toNat := by
    exact_mod_cast mul_right_cancel₀ (by positivity) same
  have doubled : 2 ^ 1 ≤ 2 ^ (e' - e).toNat := Nat.pow_le_pow_right (by norm_num) (by omega)
  have product : 2 ^ 52 * 2 ^ 1 ≤ m := scaled ▸ Nat.mul_le_mul large doubled
  have := encoded.small
  omega

theorem IsEncoded.unique {m m' : ℕ} {e e' : ℤ} (encoded : IsEncoded m e)
    (encoded' : IsEncoded m' e') (same : (m : ℚ) * 2 ^ e = m' * 2 ^ e') : m = m' ∧ e = e' := by
  have exponents : e = e' :=
    le_antisymm (encoded'.exponent_le encoded same.symm) (encoded.exponent_le encoded' same)
  subst exponents
  exact ⟨by exact_mod_cast mul_right_cancel₀ (by positivity) same, rfl⟩

/-- Only the zeros share their value. -/
theorem Binary64.eq_of_value {x y : Binary64} {value : ℚ} (told : x.value? = some value)
    (told' : y.value? = some value) (nonzero : value ≠ 0) : x = y := by
  obtain ⟨negative, m, e, meaning, rfl⟩ := value?_eq_some_iff.mp told
  obtain ⟨negative', m', e', meaning', same⟩ := value?_eq_some_iff.mp told'
  have size : (0 : ℚ) ≤ m * 2 ^ e := by positivity
  have size' : (0 : ℚ) ≤ m' * 2 ^ e' := by positivity
  obtain ⟨signs, sizes⟩ : negative = negative' ∧ (m : ℚ) * 2 ^ e = m' * 2 ^ e' := by
    cases negative <;> cases negative' <;> simp only [signOf, reduceIte, Bool.false_eq_true,
      one_mul, neg_mul, neg_inj] at same nonzero
    · exact ⟨rfl, same⟩
    · exact absurd (by linarith) nonzero
    · exact absurd (by linarith) nonzero
    · exact ⟨rfl, same⟩
  obtain ⟨rfl, rfl⟩ := (isEncoded_of_meaning meaning).unique (isEncoded_of_meaning meaning') sizes
  subst signs
  exact eq_of_meaning meaning meaning'

namespace Binary64

/-- The number with these parts. -/
def ofParts (negative : Bool) (biasedExponent fraction : ℕ) : Binary64 :=
  ⟨UInt64.ofNat ((if negative then 2 ^ 63 else 0) + biasedExponent * 2 ^ 52 + fraction)⟩

section Parts

variable (negative : Bool) {biased fraction : ℕ} (biased_lt : biased < 2 ^ 11)
  (fraction_lt : fraction < 2 ^ 52)
include biased_lt fraction_lt

theorem bits_ofParts : (ofParts negative biased fraction).bits.toNat =
    (if negative then 2 ^ 63 else 0) + biased * 2 ^ 52 + fraction := by
  rw [ofParts, UInt64.toNat_ofNat']
  apply Nat.mod_eq_of_lt
  split <;> omega

theorem negative_ofParts : (ofParts negative biased fraction).negative = negative := by
  have bits := bits_ofParts negative biased_lt fraction_lt
  simp only [Binary64.negative, Nat.pow_eq, bits]
  cases negative <;> simp <;> omega

theorem biasedExponent_ofParts : (ofParts negative biased fraction).biasedExponent = biased := by
  have bits := bits_ofParts negative biased_lt fraction_lt
  simp only [biasedExponent, Nat.pow_eq, bits]
  cases negative <;> simp <;> omega

theorem fraction_ofParts : (ofParts negative biased fraction).fraction = fraction := by
  have bits := bits_ofParts negative biased_lt fraction_lt
  simp only [Binary64.fraction, Nat.pow_eq, bits]
  cases negative <;> simp <;> omega

end Parts

end Binary64

theorem IsEncoded.exists_meaning {m : ℕ} {e : ℤ} (encoded : IsEncoded m e) (negative : Bool) :
    ∃ x : Binary64, x.meaning = .finite negative m e := by
  obtain ⟨small, low, high, normal⟩ := encoded
  by_cases large : 2 ^ 52 ≤ m
  · refine ⟨.ofParts negative (e + 1075).toNat (m - 2 ^ 52), Binary64.meaning_eq_finite_iff.mpr ?_⟩
    rw [Binary64.negative_ofParts negative, Binary64.biasedExponent_ofParts negative,
      Binary64.fraction_ofParts negative]
    all_goals first
      | omega
      | exact ⟨rfl, Or.inr (by omega)⟩
  · refine ⟨.ofParts negative 0 m, Binary64.meaning_eq_finite_iff.mpr ?_⟩
    rw [Binary64.negative_ofParts negative, Binary64.biasedExponent_ofParts negative,
      Binary64.fraction_ofParts negative]
    all_goals first
      | omega
      | exact ⟨rfl, Or.inl (by omega)⟩

theorem IsEncoded.exists_value? {m : ℕ} {e : ℤ} (encoded : IsEncoded m e) (negative : Bool) :
    ∃ x : Binary64, x.value? = some (signOf negative * (m * 2 ^ e)) := by
  obtain ⟨x, told⟩ := encoded.exists_meaning negative
  exact ⟨x, Binary64.value?_eq_some_iff.mpr ⟨negative, m, e, told, rfl⟩⟩

/-- A significand below the normal ones is doubled until it is one of them or the exponent is the
least. -/
theorem exists_isEncoded {m : ℕ} (small : m < 2 ^ 53) (steps : ℕ) (high : steps ≤ 2045) :
    ∃ m' e', IsEncoded m' e' ∧ (m' : ℚ) * 2 ^ e' = m * 2 ^ (steps - 1074 : ℤ) := by
  induction steps generalizing m with
  | zero => exact ⟨m, -1074, ⟨small, le_rfl, by omega, by omega⟩, by norm_num⟩
  | succ steps ih =>
    by_cases normal : 2 ^ 52 ≤ m
    · exact ⟨m, (steps + 1 : ℕ) - 1074, ⟨small, by omega, by omega, fun _ => normal⟩, rfl⟩
    · obtain ⟨m', e', encoded, same⟩ := @ih (2 * m) (by omega) (by omega)
      refine ⟨m', e', encoded, same.trans ?_⟩
      have doubled : (2 : ℚ) ^ ((steps + 1 : ℕ) - 1074 : ℤ) = 2 * 2 ^ (steps - 1074 : ℤ) := by
        rw [← zpow_one_add₀ (by norm_num)]
        congr 1
        push_cast
        ring
      rw [doubled]
      push_cast
      ring

theorem exists_value? {k e : ℤ} (small : |k| < 2 ^ 53) (low : -1074 ≤ e) (high : e ≤ 971) :
    ∃ x : Binary64, x.value? = some (k * 2 ^ e : ℚ) := by
  obtain ⟨m', e', encoded, same⟩ :=
    exists_isEncoded (m := k.natAbs) (by rw [Int.abs_eq_natAbs] at small; omega)
      (e + 1074).toNat (by omega)
  obtain ⟨x, told⟩ := encoded.exists_value? (decide (k < 0))
  refine ⟨x, told.trans (congrArg some ?_)⟩
  have exponent : (((e + 1074).toNat : ℤ) - 1074) = e := by omega
  rw [same, exponent, ← mul_assoc, signOf_mul_natAbs]

/-- Every whole number up to the precision limit is a value; the limit has half itself as
significand. -/
theorem exists_value?_of_whole {n : ℤ} (small : n.natAbs ≤ 2 ^ 53) :
    ∃ x : Binary64, x.value? = some (n : ℚ) := by
  obtain less | limit := small.lt_or_eq
  · obtain ⟨x, told⟩ := exists_value? (k := n) (e := 0) (by rw [Int.abs_eq_natAbs]; omega)
      (by norm_num) (by norm_num)
    exact ⟨x, by rw [told, zpow_zero, mul_one]⟩
  · obtain ⟨x, told⟩ := exists_value? (k := n / 2) (e := 1) (by rw [Int.abs_eq_natAbs]; omega)
      (by norm_num) (by norm_num)
    have half : (n : ℚ) = (n / 2 : ℤ) * 2 ^ (1 : ℤ) := by
      rw [zpow_one]
      exact_mod_cast (show n = n / 2 * 2 by omega)
    exact ⟨x, by rw [told, half]⟩

theorem Binary64.whole?_eq_some_iff {x : Binary64} {n : ℤ} :
    x.whole? = some n ↔ x.value? = some (n : ℚ) := by
  unfold whole? value?
  cases x.meaning with
  | notNumber => simp
  | infinite negative => simp
  | finite negative m e =>
    simp only [Nat.pow_eq, zpow_eq_toNat_div]
    split
    · next divides =>
      obtain ⟨quotient, rfl⟩ := Nat.dvd_of_mod_eq_zero divides
      rw [Nat.mul_div_cancel_left _ (by positivity), Option.some_inj, Option.some_inj]
      have reduced : ((2 ^ (-e).toNat * quotient : ℕ) : ℚ) * (2 ^ e.toNat / 2 ^ (-e).toNat) =
          (quotient * 2 ^ e.toNat : ℕ) := by
        push_cast
        field_simp
      rw [reduced]
      cases negative <;>
        simp only [signOf, reduceIte, Bool.false_eq_true, neg_mul, one_mul] <;> norm_cast
    · next remainder =>
      simp only [reduceCtorEq, Option.some_inj, false_iff]
      intro whole
      apply remainder
      have negated : e.toNat = 0 := by
        by_contra positive
        rw [show (-e).toNat = 0 by omega] at remainder
        omega
      rw [negated, pow_zero, one_div, ← div_eq_mul_inv, mul_div_assoc', div_eq_iff (by positivity)]
        at whole
      obtain ⟨quotient, multiple⟩ : ∃ quotient : ℤ, (m : ℚ) = 2 ^ (-e).toNat * quotient := by
        cases negative <;> simp only [signOf, reduceIte, Bool.false_eq_true, one_mul] at whole
        · exact ⟨n, by linarith⟩
        · exact ⟨-n, by push_cast; linarith⟩
      have divides : (2 ^ (-e).toNat : ℤ) ∣ m := ⟨quotient, by exact_mod_cast multiple⟩
      exact Nat.mod_eq_zero_of_dvd (by exact_mod_cast divides)

end UnitCatalogue.Decimal
