import Mathlib
import UnitCatalogue.Decimal.Shortest
import UnitCatalogue.Proofs.BinaryValues

/-!
# The nearest binary number

Rounding a rational value to the nearest number, ties to the even last bit. A value rounds to at
most one number, the sign of zero apart, and the values that round to a given number are those of
its rounding interval.
-/

namespace UnitCatalogue.Decimal

/-- The middle between the largest number and the power of two after it, from which on nothing
rounds to a number. -/
def roundingLimit : ℚ := (2 ^ 53 - 1 / 2) * 2 ^ (971 : ℤ)

/-- `x` is the nearest number to `q`, and has an even last bit when another is equally near. -/
structure RoundsTo (q : ℚ) (x : Binary64) : Prop where
  bounded : |q| < roundingLimit
  nearest : ∃ v, x.value? = some v ∧ ∀ (y : Binary64) (w : ℚ), y.value? = some w → w ≠ v →
    |q - v| < |q - w| ∨ |q - v| = |q - w| ∧ Even x.bits.toNat

/-- A whole multiple of a power of two that a number can have as its value. -/
structure IsMultiple (k f : ℤ) : Prop where
  small : |k| < 2 ^ 53
  low : -1074 ≤ f
  high : f ≤ 971

theorem IsEncoded.isMultiple {m : ℕ} {e : ℤ} (encoded : IsEncoded m e) : IsMultiple m e :=
  ⟨by rw [Nat.abs_cast]; exact_mod_cast encoded.small, encoded.low, encoded.high⟩

theorem IsMultiple.neg {k f : ℤ} (multiple : IsMultiple k f) : IsMultiple (-k) f :=
  ⟨by rw [abs_neg]; exact multiple.small, multiple.low, multiple.high⟩

theorem IsMultiple.lt_limit {k f : ℤ} (multiple : IsMultiple k f) :
    (k * 2 ^ f : ℚ) < roundingLimit := by
  have upper : k ≤ 2 ^ 53 - 1 := Int.le_sub_one_of_lt (abs_lt.mp multiple.small).2
  calc (k * 2 ^ f : ℚ) ≤ (2 ^ 53 - 1) * 2 ^ f :=
        mul_le_mul_of_nonneg_right (by exact_mod_cast upper) (by positivity)
    _ ≤ (2 ^ 53 - 1) * 2 ^ (971 : ℤ) :=
        mul_le_mul_of_nonneg_left (zpow_le_zpow_right₀ (by norm_num) multiple.high) (by norm_num)
    _ < roundingLimit := mul_lt_mul_of_pos_right (by norm_num) (by positivity)

theorem IsMultiple.exists_value? {k f : ℤ} (multiple : IsMultiple k f) :
    ∃ x : Binary64, x.value? = some (k * 2 ^ f : ℚ) :=
  Decimal.exists_value? multiple.small multiple.low multiple.high

theorem Binary64.exists_multiple {x : Binary64} {v : ℚ} (told : x.value? = some v) :
    ∃ k f, IsMultiple k f ∧ v = k * 2 ^ f ∧ (Even x.bits.toNat ↔ Even k) := by
  obtain ⟨negative, m, e, meaning, rfl⟩ := value?_eq_some_iff.mp told
  have multiple := (isEncoded_of_meaning meaning).isMultiple
  rw [even_iff meaning]
  cases negative
  · refine ⟨m, e, multiple, ?_, (Int.even_coe_nat m).symm⟩
    simp [signOf]
  · refine ⟨-m, e, multiple.neg, ?_, by rw [even_neg, Int.even_coe_nat]⟩
    simp [signOf]

/-- A multiple of a coarser power of two is one of a finer power. -/
theorem refine_multiple (k : ℤ) {f g : ℤ} (finer : f ≤ g) :
    (k * 2 ^ g : ℚ) = (k * 2 ^ (g - f).toNat : ℤ) * 2 ^ f := by
  rw [two_zpow_of_le finer]
  push_cast
  ring

/-- Between two values with an even last bit there is another one. -/
theorem exists_value_between {x y : Binary64} {v w : ℚ} (told : x.value? = some v)
    (told' : y.value? = some w) (even : Even x.bits.toNat) (even' : Even y.bits.toNat)
    (less : v < w) : ∃ z u, Binary64.value? z = some u ∧ v < u ∧ u < w := by
  obtain ⟨k, f, multiple, rfl, parity⟩ := x.exists_multiple told
  obtain ⟨l, g, multiple', rfl, parity'⟩ := y.exists_multiple told'
  rw [parity, Int.even_iff] at even
  rw [parity', Int.even_iff] at even'
  obtain ⟨small, low, high⟩ := multiple
  obtain ⟨small', low', high'⟩ := multiple'
  rw [abs_lt] at small small'
  -- At the finer of the two powers both are even multiples, and the odd one next to the value
  -- that is told there is a value too.
  obtain finer | finer := le_total f g
  · rw [refine_multiple l finer] at less ⊢
    have even_refined : l * 2 ^ (g - f).toNat % 2 = 0 := by simp [Int.mul_emod, even']
    generalize l * 2 ^ (g - f).toNat = refined at *
    have order : k < refined := by
      exact_mod_cast lt_of_mul_lt_mul_right less (by positivity)
    obtain ⟨z, between⟩ := exists_value? (k := k + 1) (e := f) (by rw [abs_lt]; omega) low high
    refine ⟨z, _, between, ?_, ?_⟩
    · exact mul_lt_mul_of_pos_right (by push_cast; linarith) (by positivity)
    · exact mul_lt_mul_of_pos_right (by exact_mod_cast (by omega)) (by positivity)
  · rw [refine_multiple k finer] at less ⊢
    have even_refined : k * 2 ^ (f - g).toNat % 2 = 0 := by simp [Int.mul_emod, even]
    generalize k * 2 ^ (f - g).toNat = refined at *
    have order : refined < l := by
      exact_mod_cast lt_of_mul_lt_mul_right less (by positivity)
    obtain ⟨z, between⟩ := exists_value? (k := l - 1) (e := g) (by rw [abs_lt]; omega) low' high'
    refine ⟨z, _, between, ?_, ?_⟩
    · exact mul_lt_mul_of_pos_right (by exact_mod_cast (by omega)) (by positivity)
    · exact mul_lt_mul_of_pos_right (by push_cast; linarith) (by positivity)

/-- Of two values that are both nearest no one is less. -/
theorem RoundsTo.not_less {q v w : ℚ} {x y : Binary64} (rounds : RoundsTo q x)
    (rounds' : RoundsTo q y) (told : x.value? = some v) (told' : y.value? = some w) :
    ¬v < w := by
  intro less
  obtain ⟨_, ⟨_, told_v, nearest⟩⟩ := rounds
  obtain ⟨_, ⟨_, told_w, nearest'⟩⟩ := rounds'
  cases told.symm.trans told_v
  cases told'.symm.trans told_w
  have tie := nearest y w told' less.ne'
  have tie' := nearest' x v told less.ne
  have equal : |q - v| = |q - w| := by
    obtain nearer | ⟨equal, _⟩ := tie
    · obtain nearer' | ⟨equal, _⟩ := tie'
      · exact absurd nearer' (lt_asymm nearer)
      · exact equal.symm
    · exact equal
  obtain ⟨z, u, between, above, below⟩ := exists_value_between told told'
    (tie.resolve_left equal.not_lt).2 (tie'.resolve_left equal.symm.not_lt).2 less
  have middle : q - v = w - q := by
    obtain same | opposite := abs_eq_abs.mp equal
    · exact absurd (by linarith) less.ne
    · linarith
  have nearer : |q - u| < |q - v| := by
    rw [abs_of_pos (a := q - v) (by linarith), abs_lt]
    constructor <;> linarith
  obtain closer | ⟨same, _⟩ := nearest z u between above.ne'
  · exact lt_asymm nearer closer
  · exact nearer.ne' same

theorem RoundsTo.unique {q : ℚ} {x y : Binary64} (rounds : RoundsTo q x)
    (rounds' : RoundsTo q y) : x.value? = y.value? := by
  obtain ⟨v, told, _⟩ := rounds.nearest
  obtain ⟨w, told', _⟩ := rounds'.nearest
  rw [told, told', le_antisymm (not_lt.mp (rounds'.not_less rounds told' told))
    (not_lt.mp (rounds.not_less rounds' told told'))]

section Neighbours

variable {m : ℕ} {e k f : ℤ}

theorem IsEncoded.above (encoded : IsEncoded m e) (multiple : IsMultiple k f)
    (above : (m * 2 ^ e : ℚ) < k * 2 ^ f) : (m + 1) * 2 ^ e ≤ (k * 2 ^ f : ℚ) := by
  obtain finer | coarser := le_or_gt e f
  · rw [refine_multiple k finer] at above ⊢
    have order : (m : ℚ) < (k * 2 ^ (f - e).toNat : ℤ) :=
      lt_of_mul_lt_mul_right above (by positivity)
    apply mul_le_mul_of_nonneg_right _ (by positivity)
    exact_mod_cast order
  · -- A finer value is below the least significand of this power.
    exfalso
    have large := encoded.normal (by have := multiple.low; omega)
    have upper := (abs_lt.mp multiple.small).2
    rw [← Int.cast_natCast, refine_multiple m coarser.le] at above
    have order : (m * 2 ^ (e - f).toNat : ℤ) < k := by
      exact_mod_cast lt_of_mul_lt_mul_right above (by positivity)
    have doubled : 2 ^ 1 ≤ 2 ^ (e - f).toNat := Nat.pow_le_pow_right (by norm_num) (by omega)
    have product : 2 ^ 52 * 2 ^ 1 ≤ m * 2 ^ (e - f).toNat := Nat.mul_le_mul large doubled
    have product : (2 ^ 52 * 2 ^ 1 : ℤ) ≤ m * 2 ^ (e - f).toNat := by exact_mod_cast product
    omega

/-- Below the least significand of a power the next value is half as far away. -/
theorem IsEncoded.below (encoded : IsEncoded m e) (multiple : IsMultiple k f)
    (below : (k * 2 ^ f : ℚ) < m * 2 ^ e) :
    (k * 2 ^ f : ℚ) ≤ (m - 1) * 2 ^ e ∨
      (m = 2 ^ 52 ∧ -1074 < e) ∧ (k * 2 ^ f : ℚ) ≤ (m - 1 / 2) * 2 ^ e := by
  obtain finer | coarser := le_or_gt e f
  · left
    rw [refine_multiple k finer] at below ⊢
    have order : ((k * 2 ^ (f - e).toNat : ℤ) : ℚ) < m :=
      lt_of_mul_lt_mul_right below (by positivity)
    have order : k * 2 ^ (f - e).toNat ≤ (m : ℤ) - 1 := by
      apply Int.le_sub_one_of_lt
      exact_mod_cast order
    apply mul_le_mul_of_nonneg_right _ (by positivity)
    exact_mod_cast order
  · have normal : -1074 < e := by have := multiple.low; omega
    have large := encoded.normal normal
    have bound : (k * 2 ^ f : ℚ) ≤ (2 ^ 52 - 1 / 2) * 2 ^ e := by
      calc (k * 2 ^ f : ℚ) ≤ (2 ^ 53 - 1) * 2 ^ f := by
            apply mul_le_mul_of_nonneg_right _ (by positivity)
            have upper : k ≤ 2 ^ 53 - 1 := by have := (abs_lt.mp multiple.small).2; omega
            exact_mod_cast upper
        _ ≤ (2 ^ 53 - 1) * 2 ^ (e - 1) := by
            apply mul_le_mul_of_nonneg_left _ (by norm_num)
            exact zpow_le_zpow_right₀ (by norm_num) (by omega)
        _ = (2 ^ 52 - 1 / 2) * 2 ^ e := by
            rw [zpow_sub_one₀ (by norm_num)]
            ring
    obtain rfl | larger := large.eq_or_lt
    · exact Or.inr ⟨⟨rfl, normal⟩, by exact_mod_cast bound⟩
    · left
      apply bound.trans
      apply mul_le_mul_of_nonneg_right _ (by positivity)
      have larger : (2 ^ 52 + 1 : ℚ) ≤ m := by exact_mod_cast larger
      linarith

theorem IsEncoded.exists_above (encoded : IsEncoded m e) (more : m + 1 < 2 ^ 53 ∨ e < 971) :
    ∃ k f, IsMultiple k f ∧ (k * 2 ^ f : ℚ) = (m + 1) * 2 ^ e := by
  obtain ⟨small, low, high, _⟩ := encoded
  by_cases last : m + 1 < 2 ^ 53
  · exact ⟨m + 1, e, ⟨by rw [abs_lt]; omega, low, high⟩, by push_cast; rfl⟩
  · refine ⟨2 ^ 52, e + 1, ⟨by norm_num, by omega, by omega⟩, ?_⟩
    rw [zpow_add_one₀ (by norm_num), show m = 2 ^ 53 - 1 by omega]
    push_cast
    ring

theorem IsEncoded.exists_below (encoded : IsEncoded m e) :
    ∃ k f, IsMultiple k f ∧
      (k * 2 ^ f : ℚ) = (m - if m = 2 ^ 52 ∧ -1074 < e then 1 / 2 else 1) * 2 ^ e := by
  obtain ⟨small, low, high, _⟩ := encoded
  split
  · next narrow =>
    refine ⟨2 ^ 53 - 1, e - 1, ⟨by norm_num, by omega, by omega⟩, ?_⟩
    rw [zpow_sub_one₀ (by norm_num), narrow.1]
    push_cast
    ring
  · exact ⟨m - 1, e, ⟨by rw [abs_lt]; omega, low, high⟩, by push_cast; rfl⟩

end Neighbours

theorem Binary64.roundsTo_value {x : Binary64} {v : ℚ} (told : x.value? = some v) :
    RoundsTo v x := by
  refine ⟨?_, v, told, fun y w _ other => ?_⟩
  · obtain ⟨k, f, multiple, rfl, _⟩ := x.exists_multiple told
    have below := multiple.neg.lt_limit
    rw [Int.cast_neg, neg_mul] at below
    exact abs_lt.mpr ⟨neg_lt.mp below, multiple.lt_limit⟩
  · left
    rwa [sub_self, abs_zero, abs_pos, sub_ne_zero, ne_comm]

/-- A value other than zero tells which number it rounds to. -/
theorem RoundsTo.iff {q v : ℚ} {x y : Binary64} (rounds : RoundsTo q x) (told : x.value? = some v)
    (zero : v = 0 → q = 0) : RoundsTo q y ↔ y = x ∨ y.value? = some 0 ∧ v = 0 := by
  constructor
  · intro rounds'
    have told' : y.value? = some v := (rounds'.unique rounds).trans told
    by_cases v_zero : v = 0
    · exact Or.inr ⟨v_zero ▸ told', v_zero⟩
    · exact Or.inl (Binary64.eq_of_value told' told v_zero)
  · rintro (rfl | ⟨told', v_zero⟩)
    · exact rounds
    · rw [zero v_zero]
      exact Binary64.roundsTo_value told'

section Nearer

variable {q v w : ℚ} {tie : Prop}

theorem equally_near_iff (distinct : v ≠ w) : |q - v| = |q - w| ↔ q = (v + w) / 2 := by
  rw [abs_eq_abs]
  constructor
  · rintro (same | opposite)
    · exact absurd (sub_right_injective same) distinct
    · linarith
  · rintro rfl
    right
    ring

theorem nearer_iff_of_gt (less : w < v) :
    (|q - v| < |q - w| ∨ |q - v| = |q - w| ∧ tie) ↔
      (v + w) / 2 ≤ q ∧ (q = (v + w) / 2 → tie) := by
  have nearer : |q - v| < |q - w| ↔ (v + w) / 2 < q := by
    rw [← sq_lt_sq]
    constructor <;> intro _ <;> nlinarith
  rw [nearer, equally_near_iff less.ne', le_iff_lt_or_eq, eq_comm (a := (v + w) / 2)]
  have disjoint : (v + w) / 2 < q → q ≠ (v + w) / 2 := fun above => above.ne'
  tauto

theorem nearer_iff_of_lt (less : v < w) :
    (|q - v| < |q - w| ∨ |q - v| = |q - w| ∧ tie) ↔
      q ≤ (v + w) / 2 ∧ (q = (v + w) / 2 → tie) := by
  have nearer : |q - v| < |q - w| ↔ q < (v + w) / 2 := by
    rw [← sq_lt_sq]
    constructor <;> intro _ <;> nlinarith
  rw [nearer, equally_near_iff less.ne, le_iff_lt_or_eq]
  have disjoint : q < (v + w) / 2 → q ≠ (v + w) / 2 := fun below => below.ne
  tauto

end Nearer

namespace Rounding

def value (r : Rounding) : ℚ := r.significand * 2 ^ r.exponent

def lowEnd (r : Rounding) : ℚ :=
  (r.significand - if r.narrowBelow then 1 / 4 else 1 / 2) * 2 ^ r.exponent

def highEnd (r : Rounding) : ℚ := (r.significand + 1 / 2) * 2 ^ r.exponent

/-- The interval around a value that rounds to it. Its ends are the middles between the value and
its neighbours. -/
structure Contains (r : Rounding) (q : ℚ) : Prop where
  low : r.lowEnd ≤ q
  high : q ≤ r.highEnd
  ends : q = r.lowEnd ∨ q = r.highEnd → Even r.significand

/-- What is told of a number other than zero. -/
structure IsTold (r : Rounding) : Prop extends IsEncoded r.significand r.exponent where
  positive : 0 < r.significand
  narrow : r.narrowBelow = true ↔ r.significand = 2 ^ 52 ∧ -1074 < r.exponent

variable {r : Rounding} {q : ℚ} {k f : ℤ} (told : r.IsTold)
include told

theorem IsTold.exists_lowEnd : ∃ k f, IsMultiple k f ∧ (k * 2 ^ f : ℚ) < r.value ∧
    r.lowEnd = (r.value + k * 2 ^ f) / 2 := by
  obtain ⟨k, f, multiple, below⟩ := told.exists_below
  refine ⟨k, f, multiple, ?_, ?_⟩
  · rw [below, value]
    apply mul_lt_mul_of_pos_right _ (by positivity)
    split <;> linarith
  · rw [below, value, lowEnd]
    simp only [told.narrow]
    split <;> ring

theorem IsTold.exists_highEnd (more : r.significand + 1 < 2 ^ 53 ∨ r.exponent < 971) :
    ∃ k f, IsMultiple k f ∧ r.value < (k * 2 ^ f : ℚ) ∧
      r.highEnd = (r.value + k * 2 ^ f) / 2 := by
  obtain ⟨k, f, multiple, above⟩ := told.exists_above more
  refine ⟨k, f, multiple, ?_, ?_⟩
  · rw [above, value]
    exact mul_lt_mul_of_pos_right (by linarith) (by positivity)
  · rw [above, value, highEnd]
    ring

theorem IsTold.middle_le_lowEnd (multiple : IsMultiple k f) (less : (k * 2 ^ f : ℚ) < r.value) :
    (r.value + k * 2 ^ f) / 2 ≤ r.lowEnd := by
  have unit : (0 : ℚ) < 2 ^ r.exponent := by positivity
  unfold lowEnd value at *
  obtain far | ⟨narrow, near⟩ := told.below multiple less
  · split <;> linarith
  · rw [if_pos (told.narrow.mpr narrow)]
    linarith

theorem IsTold.highEnd_le_middle (multiple : IsMultiple k f)
    (more : r.value < (k * 2 ^ f : ℚ)) : r.highEnd ≤ (r.value + k * 2 ^ f) / 2 := by
  have above := told.above multiple more
  unfold highEnd value
  linarith

theorem IsTold.lowEnd_pos : 0 < r.lowEnd := by
  have positive : (1 : ℚ) ≤ r.significand := by exact_mod_cast told.positive
  apply mul_pos _ (by positivity)
  split <;> linarith

theorem IsTold.highEnd_of_largest (largest : ¬(r.significand + 1 < 2 ^ 53 ∨ r.exponent < 971)) :
    r.significand = 2 ^ 53 - 1 ∧ r.highEnd = roundingLimit := by
  have significand : r.significand = 2 ^ 53 - 1 := by have := told.small; omega
  have exponent : r.exponent = 971 := by have := told.high; omega
  refine ⟨significand, ?_⟩
  rw [highEnd, roundingLimit, significand, exponent]
  norm_num

/-- The largest number of all does not own the end of its interval, where nothing rounds to a number
any more. -/
theorem IsTold.highEnd_le : r.highEnd ≤ roundingLimit ∧
    (r.highEnd = roundingLimit → ¬Even r.significand) := by
  by_cases more : r.significand + 1 < 2 ^ 53 ∨ r.exponent < 971
  · obtain ⟨k, f, multiple, less, middle⟩ := told.exists_highEnd more
    have below : r.highEnd < roundingLimit := by
      have := multiple.lt_limit
      linarith
    exact ⟨below.le, fun ended => absurd ended below.ne⟩
  · obtain ⟨significand, ended⟩ := told.highEnd_of_largest more
    refine ⟨ended.le, fun _ => ?_⟩
    rw [significand]
    decide

theorem IsTold.contains_iff : r.Contains q ↔
    |q| < roundingLimit ∧ ∀ k f, IsMultiple k f → (k * 2 ^ f : ℚ) ≠ r.value →
      |q - r.value| < |q - k * 2 ^ f| ∨
        |q - r.value| = |q - k * 2 ^ f| ∧ Even r.significand := by
  obtain ⟨highest, odd⟩ := told.highEnd_le
  constructor
  · rintro ⟨low, high, ends⟩
    refine ⟨?_, fun k f multiple distinct => ?_⟩
    · rw [abs_of_pos (told.lowEnd_pos.trans_le low)]
      apply lt_of_le_of_ne (high.trans highest)
      intro last
      have ended : q = r.highEnd := le_antisymm high (last ▸ highest)
      exact odd (ended ▸ last) (ends (Or.inr ended))
    · obtain less | more := lt_or_gt_of_ne distinct
      · have middle := told.middle_le_lowEnd multiple less
        refine (nearer_iff_of_gt less).mpr ⟨middle.trans low, fun tie => ends (Or.inl ?_)⟩
        exact le_antisymm (tie.trans_le middle) low
      · have middle := told.highEnd_le_middle multiple more
        refine (nearer_iff_of_lt more).mpr ⟨high.trans middle, fun tie => ends (Or.inr ?_)⟩
        exact le_antisymm high (middle.trans_eq tie.symm)
  · rintro ⟨bounded, nearest⟩
    obtain ⟨low, low_even⟩ : r.lowEnd ≤ q ∧ (q = r.lowEnd → Even r.significand) := by
      obtain ⟨k, f, multiple, less, middle⟩ := told.exists_lowEnd
      rw [middle]
      exact (nearer_iff_of_gt less).mp (nearest k f multiple less.ne)
    obtain ⟨high, high_even⟩ : q ≤ r.highEnd ∧ (q = r.highEnd → Even r.significand) := by
      by_cases more : r.significand + 1 < 2 ^ 53 ∨ r.exponent < 971
      · obtain ⟨k, f, multiple, less, middle⟩ := told.exists_highEnd more
        rw [middle]
        exact (nearer_iff_of_lt less).mp (nearest k f multiple less.ne')
      · have below : q < r.highEnd := by
          rw [(told.highEnd_of_largest more).2]
          exact (le_abs_self q).trans_lt bounded
        exact ⟨below.le, fun ended => absurd ended below.ne⟩
    exact ⟨low, high, fun ends => ends.elim low_even high_even⟩

end Rounding

theorem abs_signOf_mul (negative : Bool) (a : ℚ) : |signOf negative * a| = |a| := by
  cases negative <;> simp [signOf]

theorem IsMultiple.signed {k f : ℤ} (multiple : IsMultiple k f) (negative : Bool) :
    ∃ k', IsMultiple k' f ∧ (k' * 2 ^ f : ℚ) = signOf negative * (k * 2 ^ f) := by
  cases negative
  · exact ⟨k, multiple, by simp [signOf]⟩
  · exact ⟨-k, multiple.neg, by simp [signOf]⟩

section Numbers

variable {x : Binary64} {negative : Bool} {m : ℕ} {e : ℤ} {q : ℚ}
  (told : x.meaning = .finite negative m e)
include told

/-- Rounding is the same on both sides of zero. -/
theorem roundsTo_iff : RoundsTo (signOf negative * q) x ↔
    |q| < roundingLimit ∧ ∀ k f, IsMultiple k f → (k * 2 ^ f : ℚ) ≠ m * 2 ^ e →
      |q - m * 2 ^ e| < |q - k * 2 ^ f| ∨ |q - m * 2 ^ e| = |q - k * 2 ^ f| ∧ Even m := by
  have value : x.value? = some (signOf negative * (m * 2 ^ e)) :=
    Binary64.value?_eq_some_iff.mpr ⟨_, _, _, told, rfl⟩
  have distance (v : ℚ) : |signOf negative * q - signOf negative * v| = |q - v| := by
    rw [← mul_sub, abs_signOf_mul]
  constructor
  · rintro ⟨bounded, v, value', nearest⟩
    cases value.symm.trans value'
    rw [abs_signOf_mul] at bounded
    refine ⟨bounded, fun k f multiple distinct => ?_⟩
    obtain ⟨k', multiple', same⟩ := multiple.signed negative
    obtain ⟨y, value_y⟩ := multiple'.exists_value?
    rw [same] at value_y
    have nonzero := left_ne_zero_of_mul_eq_one (signOf_mul_self negative)
    have nearer := nearest y _ value_y fun equal => distinct (mul_left_cancel₀ nonzero equal)
    rwa [distance, distance, Binary64.even_iff told] at nearer
  · rintro ⟨bounded, nearest⟩
    refine ⟨by rwa [abs_signOf_mul], _, value, fun y w value_y distinct => ?_⟩
    obtain ⟨k, f, multiple, rfl, _⟩ := y.exists_multiple value_y
    obtain ⟨k', multiple', same⟩ := multiple.signed negative
    have back : (k * 2 ^ f : ℚ) = signOf negative * (k' * 2 ^ f) := by
      rw [same, ← mul_assoc, signOf_mul_self, one_mul]
    rw [back] at distinct ⊢
    rw [distance, distance, Binary64.even_iff told]
    exact nearest k' f multiple' fun equal => distinct (by rw [equal])

theorem isTold_of_meaning (positive : 0 < m) : (⟨m, e, x.narrowBelow⟩ : Rounding).IsTold :=
  ⟨Binary64.isEncoded_of_meaning told, positive, Binary64.narrowBelow_iff told⟩

/-- The values that round to a number other than zero are those of its interval. -/
theorem roundsTo_iff_contains (positive : 0 < m) :
    RoundsTo (signOf negative * q) x ↔ (⟨m, e, x.narrowBelow⟩ : Rounding).Contains q := by
  rw [roundsTo_iff told, (isTold_of_meaning told positive).contains_iff]
  rfl

end Numbers

end UnitCatalogue.Decimal
