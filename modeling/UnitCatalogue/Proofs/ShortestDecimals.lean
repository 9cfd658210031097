import Mathlib
import UnitCatalogue.Decimal.Shortest
import UnitCatalogue.Proofs.NearestBinary

/-!
# What the search for a decimal finds

The tests in whole-number arithmetic are membership in the rounding interval. The decimal that the
search ends with is in the interval, and no multiple of a greater power of ten is. So a whole number
below the precision limit is found with its own digits.
-/

namespace UnitCatalogue.Decimal

def Scientific.value (x : Scientific) : ℚ := x.digits * 10 ^ x.exponent

theorem Scientific.value_eq_natCast {x : Scientific} (whole : 0 ≤ x.exponent) :
    x.value = (x.digits * 10 ^ x.exponent.toNat : ℕ) := by
  rw [value, zpow_eq_toNat_div, show (-x.exponent).toNat = 0 by omega]
  push_cast
  ring

theorem denominator_pos (exponent grid : ℤ) : 0 < denominator exponent grid := by
  unfold denominator
  simp only [Nat.pow_eq]
  positivity

theorem numerator_div_denominator (quarters : ℕ) (exponent grid : ℤ) :
    (numerator quarters exponent grid : ℚ) / denominator exponent grid =
      quarters * 2 ^ exponent / 10 ^ grid := by
  rw [zpow_eq_toNat_div 2, zpow_eq_toNat_div 10]
  simp only [numerator, denominator, Nat.pow_eq]
  push_cast
  field_simp

section Comparison

variable (quarters digits : ℕ) (exponent grid : ℤ)

theorem numerator_le_iff :
    numerator quarters exponent grid ≤ digits * denominator exponent grid ↔
      (quarters * 2 ^ exponent : ℚ) ≤ digits * 10 ^ grid := by
  have positive : (0 : ℚ) < denominator exponent grid := by
    exact_mod_cast denominator_pos exponent grid
  rw [← div_le_iff₀ (by positivity), ← numerator_div_denominator, div_le_iff₀ positive]
  norm_cast

theorem le_numerator_iff :
    digits * denominator exponent grid ≤ numerator quarters exponent grid ↔
      (digits * 10 ^ grid : ℚ) ≤ quarters * 2 ^ exponent := by
  have positive : (0 : ℚ) < denominator exponent grid := by
    exact_mod_cast denominator_pos exponent grid
  rw [← le_div_iff₀ (by positivity), ← numerator_div_denominator, le_div_iff₀ positive]
  norm_cast

theorem numerator_lt_iff :
    numerator quarters exponent grid < digits * denominator exponent grid ↔
      (quarters * 2 ^ exponent : ℚ) < digits * 10 ^ grid := by
  rw [← not_le, le_numerator_iff, not_le]

theorem lt_numerator_iff :
    digits * denominator exponent grid < numerator quarters exponent grid ↔
      (digits * 10 ^ grid : ℚ) < quarters * 2 ^ exponent := by
  rw [← not_le, numerator_le_iff, not_le]

end Comparison

namespace Rounding

variable {r : Rounding}

theorem value_eq_quarters (r : Rounding) :
    r.value = (4 * r.significand : ℕ) * 2 ^ (r.exponent - 2) := by
  rw [value, zpow_sub₀ (by norm_num)]
  push_cast
  ring

theorem highEnd_eq_quarters (r : Rounding) :
    r.highEnd = (4 * r.significand + 2 : ℕ) * 2 ^ (r.exponent - 2) := by
  rw [highEnd, zpow_sub₀ (by norm_num)]
  push_cast
  ring

theorem lowEnd_eq_quarters (positive : 0 < r.significand) : r.lowEnd =
    (4 * r.significand - (if r.narrowBelow then 1 else 2) : ℕ) * 2 ^ (r.exponent - 2) := by
  rw [lowEnd, zpow_sub₀ (by norm_num), Nat.cast_sub (by split <;> omega)]
  split <;> push_cast <;> ring

theorem contains_iff_of_even (even : Even r.significand) {q : ℚ} :
    r.Contains q ↔ r.lowEnd ≤ q ∧ q ≤ r.highEnd :=
  ⟨fun contained => ⟨contained.low, contained.high⟩, fun ⟨low, high⟩ => ⟨low, high, fun _ => even⟩⟩

theorem contains_iff_of_odd (odd : ¬Even r.significand) {q : ℚ} :
    r.Contains q ↔ r.lowEnd < q ∧ q < r.highEnd := by
  constructor
  · rintro ⟨low, high, ends⟩
    exact ⟨low.lt_of_ne fun ended => odd (ends (Or.inl ended.symm)),
      high.lt_of_ne fun ended => odd (ends (Or.inr ended))⟩
  · rintro ⟨low, high⟩
    exact ⟨low.le, high.le, fun ends => absurd ends (not_or.mpr ⟨low.ne', high.ne⟩)⟩

/-- The test for a decimal asks whether the decimal is in the interval. -/
theorem holds_iff (positive : 0 < r.significand) (grid : ℤ) (digits : ℕ) :
    r.holds grid digits = true ↔ r.Contains (digits * 10 ^ grid) := by
  unfold holds low high unit
  simp only
  split
  · next even =>
    rw [contains_iff_of_even (Nat.even_iff.mpr even), lowEnd_eq_quarters positive,
      highEnd_eq_quarters, ← numerator_le_iff, ← le_numerator_iff, Bool.and_eq_true,
      decide_eq_true_iff, decide_eq_true_iff]
  · next odd =>
    rw [contains_iff_of_odd (fun even => odd (Nat.even_iff.mp even)), lowEnd_eq_quarters positive,
      highEnd_eq_quarters, ← numerator_lt_iff, ← lt_numerator_iff, Bool.and_eq_true,
      decide_eq_true_iff, decide_eq_true_iff]

theorem below_le (grid : ℤ) : r.below grid * 10 ^ grid ≤ r.value := by
  rw [value_eq_quarters, ← le_numerator_iff]
  exact Nat.div_mul_le_self _ _

theorem lt_succ_below (grid : ℤ) : r.value < (r.below grid + 1 : ℕ) * 10 ^ grid := by
  rw [value_eq_quarters, ← numerator_lt_iff]
  exact Nat.lt_mul_of_div_lt (Nat.lt_succ_self _) (denominator_pos _ _)

theorem Contains.between {a b q : ℚ} (low : r.Contains a) (high : r.Contains b) (above : a ≤ q)
    (below : q ≤ b) : r.Contains q := by
  refine ⟨low.low.trans above, below.trans high.high, ?_⟩
  rintro (rfl | rfl)
  · exact low.ends (Or.inl (le_antisymm above low.low))
  · exact high.ends (Or.inr (le_antisymm high.high below))

theorem contains_value (r : Rounding) : r.Contains r.value := by
  have unit : (0 : ℚ) < 2 ^ r.exponent := by positivity
  have low : r.lowEnd < r.value := by
    unfold lowEnd value
    split <;> nlinarith
  have high : r.value < r.highEnd := by
    unfold highEnd value
    nlinarith
  exact ⟨low.le, high.le, fun ends => absurd ends (not_or.mpr ⟨low.ne', high.ne⟩)⟩

theorem onGrid?_eq_none_iff {grid : ℤ} : r.onGrid? grid = none ↔
    ¬r.holds grid (r.below grid) = true ∧ ¬r.holds grid (r.below grid + 1) = true := by
  unfold onGrid?
  simp only
  cases r.holds grid (r.below grid) <;> cases r.holds grid (r.below grid + 1) <;> simp
  split <;> simp

section Grid

variable (positive : 0 < r.significand) {grid : ℤ}
include positive

theorem contains_of_onGrid? {digits : ℕ} (found : r.onGrid? grid = some digits) :
    r.Contains (digits * 10 ^ grid) := by
  rw [← holds_iff positive]
  unfold onGrid? at found
  simp only at found
  split at found
  · split at found <;> cases found <;> assumption
  · cases found; assumption
  · cases found; assumption
  · cases found

/-- When neither neighbour is in the interval, nothing on the grid is. -/
theorem not_contains_of_onGrid? (missing : r.onGrid? grid = none) (digits : ℕ) :
    ¬r.Contains (digits * 10 ^ grid) := by
  intro contained
  have unit : (0 : ℚ) < 10 ^ grid := by positivity
  obtain left | right := le_or_gt digits (r.below grid)
  · have contained : r.Contains (r.below grid * 10 ^ grid) :=
      contained.between r.contains_value
        (mul_le_mul_of_nonneg_right (by exact_mod_cast left) unit.le) (below_le grid)
    exact absurd ((holds_iff positive _ _).mpr contained) (onGrid?_eq_none_iff.mp missing).1
  · have contained : r.Contains ((r.below grid + 1 : ℕ) * 10 ^ grid) :=
      r.contains_value.between contained (lt_succ_below grid).le
        (mul_le_mul_of_nonneg_right (by exact_mod_cast right) unit.le)
    exact absurd ((holds_iff positive _ _).mpr contained) (onGrid?_eq_none_iff.mp missing).2

end Grid

/-- The found decimal is in the interval, and it is on the coarsest of the grids up to `top` that
hold a decimal of the interval. -/
structure IsCoarsest (r : Rounding) (top : ℤ) (found : Scientific) : Prop where
  contained : r.Contains found.value
  coarsest : ∀ (digits : ℕ) (grid : ℤ), r.Contains (digits * 10 ^ grid) → grid ≤ top →
    grid ≤ found.exponent

theorem isCoarsest_search (positive : 0 < r.significand) (steps : ℕ) (top : ℤ)
    (exact : ∃ digits : ℕ, r.value = digits * 10 ^ (top - steps)) :
    r.IsCoarsest top (r.search steps top) := by
  induction steps generalizing top with
  | zero =>
    obtain ⟨digits, told⟩ := exact
    rw [Nat.cast_zero, sub_zero] at told
    have whole : r.below top = digits := by
      have unit : (0 : ℚ) < 10 ^ top := by positivity
      have low := r.below_le top
      have high := r.lt_succ_below top
      rw [told, mul_le_mul_iff_left₀ unit, Nat.cast_le] at low
      rw [told, mul_lt_mul_iff_left₀ unit, Nat.cast_lt] at high
      omega
    refine ⟨?_, fun _ _ _ bounded => bounded⟩
    rw [search, Scientific.value, whole, ← told]
    exact r.contains_value
  | succ steps ih =>
    rw [search]
    split
    · next digits found => exact ⟨contains_of_onGrid? positive found, fun _ _ _ bounded => bounded⟩
    · next missing =>
      obtain ⟨contained, coarsest⟩ := ih (top - 1) (by push_cast at exact; rwa [sub_sub, add_comm])
      refine ⟨contained, fun digits grid held bounded => ?_⟩
      obtain rfl | below := bounded.eq_or_lt
      · exact absurd held (not_contains_of_onGrid? positive missing digits)
      · exact coarsest digits grid held (by omega)

/-- Every binary number is a multiple of its finest power of ten. -/
theorem exists_eq_finest (r : Rounding) : ∃ digits : ℕ, r.value = digits * 10 ^ r.finest := by
  obtain whole | fraction := le_or_gt 0 r.exponent
  · refine ⟨r.significand * 2 ^ r.exponent.toNat, ?_⟩
    rw [finest, min_eq_right whole, value, zpow_eq_toNat_div,
      show (-r.exponent).toNat = 0 by omega]
    push_cast
    ring
  · refine ⟨r.significand * 5 ^ (-r.exponent).toNat, ?_⟩
    rw [finest, min_eq_left fraction.le, show (10 : ℚ) = 5 * 2 by norm_num, mul_zpow,
      zpow_eq_toNat_div 5, show r.exponent.toNat = 0 by omega, value]
    push_cast
    field_simp

theorem finest_le_coarsest (r : Rounding) : r.finest ≤ r.coarsest := by
  unfold finest coarsest
  omega

/-- The logarithm of two to five places tells the decimal length of every power that occurs. -/
theorem two_pow_lt_ten_pow : ∀ n < 1100, 2 ^ n < 10 ^ (n * 30103 / 100000 + 2) := by
  decide +kernel

theorem ten_pow_lt_two_pow : ∀ n < 1100, 10 ^ ((n * 30103 + 99999) / 100000) < 2 ^ n * 10 ^ 2 := by
  decide +kernel

theorem two_zpow_lt_ten_zpow {k : ℤ} (small : |k| < 1100) :
    (2 : ℚ) ^ k < 10 ^ (k * 30103 / 100000 + 2) := by
  obtain ⟨n, rfl | rfl⟩ := k.eq_nat_or_neg
  · have bound := two_pow_lt_ten_pow n (by rw [Nat.abs_cast] at small; omega)
    have exponent : (n * 30103 / 100000 + 2 : ℤ) = (n * 30103 / 100000 + 2 : ℕ) := by omega
    rw [exponent, zpow_natCast, zpow_natCast]
    exact_mod_cast bound
  · have bound := ten_pow_lt_two_pow n (by rw [abs_neg, Nat.abs_cast] at small; omega)
    have exponent : (-n * 30103 / 100000 + 2 : ℤ) = 2 - ((n * 30103 + 99999) / 100000 : ℕ) := by
      omega
    rw [exponent, zpow_sub₀ (by norm_num), zpow_neg, zpow_natCast, zpow_natCast, lt_div_iff₀
      (by positivity), inv_mul_lt_iff₀ (by positivity)]
    exact_mod_cast bound

/-- The search starts at a power of ten that nothing in the interval reaches. -/
theorem IsTold.highEnd_lt (told : r.IsTold) : r.highEnd < 10 ^ r.coarsest := by
  have length : r.significand.log2 < 53 := (Nat.log2_lt told.positive.ne').mpr told.small
  calc r.highEnd < 2 ^ (r.significand.log2 + 1) * 2 ^ r.exponent := by
        apply mul_lt_mul_of_pos_right _ (by positivity)
        have bound : (r.significand + 1 : ℚ) ≤ 2 ^ (r.significand.log2 + 1) := by
          exact_mod_cast Nat.lt_log2_self
        linarith
    _ = 2 ^ (r.exponent + r.significand.log2 + 1) := by
        rw [← zpow_natCast, ← zpow_add₀ (by norm_num)]
        congr 1
        push_cast
        ring
    _ < 10 ^ r.coarsest := by
        apply two_zpow_lt_ten_zpow
        have := told.low
        have := told.high
        rw [abs_lt]
        omega

theorem IsTold.le_coarsest (told : r.IsTold) {digits : ℕ} {grid : ℤ}
    (held : r.Contains (digits * 10 ^ grid)) : grid ≤ r.coarsest := by
  by_contra coarser
  have unit : (0 : ℚ) < 10 ^ grid := by positivity
  have digits_pos : 0 < digits := by
    have positive := told.lowEnd_pos.trans_le held.low
    exact_mod_cast pos_of_mul_pos_left positive unit.le
  have least : (1 : ℚ) ≤ digits := by exact_mod_cast digits_pos
  have above : (10 : ℚ) ^ r.coarsest ≤ digits * 10 ^ grid :=
    calc (10 : ℚ) ^ r.coarsest ≤ 10 ^ grid := zpow_le_zpow_right₀ (by norm_num) (by omega)
      _ ≤ digits * 10 ^ grid := le_mul_of_one_le_left unit.le least
  have := told.highEnd_lt
  have := held.high
  linarith

/-- The shortest decimal rounds to the number, and no decimal on a coarser grid does. -/
theorem IsTold.isCoarsest_shortest (told : r.IsTold) : r.Contains r.shortest.value ∧
    ∀ (digits : ℕ) (grid : ℤ), r.Contains (digits * 10 ^ grid) → grid ≤ r.shortest.exponent := by
  have exact : ∃ digits : ℕ, r.value =
      digits * 10 ^ (r.coarsest - (r.coarsest - r.finest).toNat) := by
    have last : r.coarsest - (r.coarsest - r.finest).toNat = r.finest := by
      have := r.finest_le_coarsest
      omega
    rw [last]
    exact r.exists_eq_finest
  obtain ⟨contained, coarsest⟩ := isCoarsest_search told.positive _ _ exact
  exact ⟨contained, fun digits grid held => coarsest digits grid held (told.le_coarsest held)⟩

/-- A longer decimal would leave a power of ten between itself and the shorter one. -/
theorem IsTold.fewest_digits (told : r.IsTold) {digits : ℕ} {grid : ℤ}
    (held : r.Contains (digits * 10 ^ grid)) :
    (Nat.toDigits 10 r.shortest.digits).length ≤ (Nat.toDigits 10 digits).length := by
  obtain ⟨contained, coarsest⟩ := told.isCoarsest_shortest
  have count_pos : 0 < (Nat.toDigits 10 digits).length := Nat.length_toDigits_pos
  have few : digits < 10 ^ (Nat.toDigits 10 digits).length :=
    (Nat.length_toDigits_le_iff (by norm_num) count_pos).mp le_rfl
  rw [Nat.length_toDigits_le_iff (by norm_num) count_pos]
  generalize (Nat.toDigits 10 digits).length = count at *
  by_contra longer
  have unit : (0 : ℚ) < 10 ^ grid := by positivity
  have finer : (10 : ℚ) ^ grid ≤ 10 ^ r.shortest.exponent :=
    zpow_le_zpow_right₀ (by norm_num) (coarsest digits grid held)
  have power : ((1 : ℕ) * 10 ^ (r.shortest.exponent + count) : ℚ) =
      (10 ^ count : ℕ) * 10 ^ r.shortest.exponent := by
    rw [zpow_add₀ (by norm_num), zpow_natCast]
    push_cast
    ring
  have between : r.Contains ((1 : ℕ) * 10 ^ (r.shortest.exponent + count)) := by
    rw [power]
    apply held.between contained
    · apply mul_le_mul (by exact_mod_cast few.le) finer unit.le (by positivity)
    · apply mul_le_mul_of_nonneg_right _ (by positivity)
      exact_mod_cast not_lt.mp longer
  have := coarsest 1 _ between
  omega

/-- Up to the unit place the interval holds no whole number but the value. -/
theorem Contains.eq_value {n : ℤ} (contained : r.Contains n) (fine : r.exponent ≤ 0) :
    (n : ℚ) = r.value := by
  have unit : (0 : ℚ) < 2 ^ r.exponent := by positivity
  have scaled : (n : ℚ) = (n * 2 ^ (-r.exponent).toNat : ℤ) * 2 ^ r.exponent := by
    have refined := refine_multiple n fine
    rwa [zpow_zero, mul_one, zero_sub] at refined
  obtain ⟨low, high, _⟩ := contained
  rw [scaled] at low high ⊢
  generalize n * 2 ^ (-r.exponent).toNat = multiple at *
  have low : (r.significand - 1 / 2 : ℚ) ≤ multiple := by
    apply le_of_mul_le_mul_right (le_trans _ low) unit
    apply mul_le_mul_of_nonneg_right _ unit.le
    split <;> linarith
  have high : (multiple : ℚ) ≤ r.significand + 1 / 2 := le_of_mul_le_mul_right high unit
  have least : (r.significand : ℤ) < multiple + 1 := by
    have : (r.significand : ℚ) < multiple + 1 := by linarith
    exact_mod_cast this
  have most : multiple < (r.significand : ℤ) + 1 := by
    have : (multiple : ℚ) < r.significand + 1 := by linarith
    exact_mod_cast this
  rw [value, show multiple = r.significand by omega, Int.cast_natCast]

theorem IsTold.exponent_nonneg_iff (told : r.IsTold) :
    0 ≤ r.shortest.exponent ↔ ∃ n : ℤ, r.value = n := by
  obtain ⟨contained, coarsest⟩ := told.isCoarsest_shortest
  constructor
  · intro whole
    obtain coarse | fine := le_or_gt 0 r.exponent
    · obtain ⟨n, multiple⟩ := r.exists_eq_finest
      rw [finest, min_eq_right coarse, zpow_zero, mul_one] at multiple
      exact ⟨n, by rw [multiple, Int.cast_natCast]⟩
    · refine ⟨r.shortest.digits * 10 ^ r.shortest.exponent.toNat, ?_⟩
      rw [Scientific.value_eq_natCast whole, ← Int.cast_natCast] at contained
      rw [← contained.eq_value fine.le]
      push_cast
      rfl
  · rintro ⟨n, whole⟩
    have nonneg : 0 ≤ r.value := by unfold value; positivity
    lift n to ℕ using by rw [whole] at nonneg; exact_mod_cast nonneg
    apply coarsest n 0
    rw [zpow_zero, mul_one, ← Int.cast_natCast, ← whole]
    exact r.contains_value

/-- Beyond the last exact whole number the rounding interval is wider than a unit. -/
theorem IsTold.exponent_nonpos {n : ℕ} (told : r.IsTold) (whole : r.value = n)
    (small : n < 2 ^ 53) : r.exponent ≤ 0 := by
  by_contra coarse
  have large := told.normal (by omega)
  have bound : (2 ^ 52 * 2 ^ (1 : ℤ) : ℚ) ≤ r.value := by
    apply mul_le_mul (by exact_mod_cast large) _ (by positivity) (by positivity)
    exact zpow_le_zpow_right₀ (by norm_num) (by omega)
  rw [whole] at bound
  have bound : (2 ^ 53 : ℚ) ≤ n := by linarith
  exact absurd small (not_lt.mpr (by exact_mod_cast bound))

theorem shortest_precision_limit : (⟨2 ^ 52, 1, true⟩ : Rounding).shortest = ⟨2 ^ 53, 0⟩ := by
  decide +kernel

theorem IsTold.shortest_value_eq {n : ℕ} (told : r.IsTold) (whole : r.value = n)
    (small : n ≤ 2 ^ 53) : r.shortest.value = n := by
  obtain below | limit := small.lt_or_eq
  · have nonneg := told.exponent_nonneg_iff.mpr ⟨n, by rw [whole, Int.cast_natCast]⟩
    have contained := told.isCoarsest_shortest.1
    rw [Scientific.value_eq_natCast nonneg, ← Int.cast_natCast] at contained ⊢
    rw [contained.eq_value (told.exponent_nonpos whole below), whole]
  · have limits : IsEncoded (2 ^ 52) 1 := ⟨by norm_num, by norm_num, by norm_num, fun _ => le_rfl⟩
    obtain ⟨significand, exponent⟩ := told.toIsEncoded.unique limits (by
      rw [← value, whole, limit]
      norm_num)
    have narrow := told.narrow.mpr ⟨significand, by omega⟩
    have limiting : r = ⟨2 ^ 52, 1, true⟩ := by
      cases r
      simp_all
    rw [limiting, shortest_precision_limit, Scientific.value, limit]
    norm_num

end Rounding

end UnitCatalogue.Decimal
