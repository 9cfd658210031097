import Mathlib.Algebra.Order.Field.Power
import Mathlib.Data.Rat.Cast.Order
import Mathlib.Tactic.GCongr
import Mathlib.Tactic.NormNum
import Mathlib.Tactic.Positivity
import UnitCatalogue.Configuration
import UnitCatalogue.Toml.Scalars

/-!
# Numbers under ignored keys

A value under an ignored key has no effect, but its numbers are read, wherever they stand in it. A
decimal number can be read if it stays below the limit from which numbers round to infinity.
-/

namespace UnitCatalogue

namespace Toml

theorem floatLimit_eq : (floatLimit : ℚ) = 2 ^ 1024 - 2 ^ 970 := by
  have ordered : 2 ^ 970 ≤ 2 ^ 1024 := by gcongr <;> omega
  simp only [floatLimit, Nat.pow_eq, Nat.cast_sub ordered, Nat.cast_pow, Nat.cast_ofNat]

theorem floatLimit_lt : floatLimit < 10 ^ 310 := by decide +kernel

theorem floatLimit_pos : 0 < floatLimit := by decide +kernel

theorem lt_ten_pow_log2_succ (n : ℕ) : n < 10 ^ (n.log2 + 1) :=
  lt_of_lt_of_le Nat.lt_log2_self (Nat.pow_le_pow_left (by norm_num) _)

/-- The powers of ten that are not computed make no difference. -/
theorem floatFits_iff (significand : ℕ) (exponent : ℤ) : floatFits significand exponent = true ↔
    (significand * 10 ^ exponent : ℚ) < 2 ^ 1024 - 2 ^ 970 := by
  rw [← floatLimit_eq]
  have bound := floatLimit_lt
  have pos := floatLimit_pos
  rw [floatFits]
  generalize floatLimit = limit at *
  by_cases zero : significand = 0
  · simp [zero, pos]
  obtain whole | fraction := lt_or_ge 0 exponent
  · obtain ⟨n, rfl⟩ := Int.eq_ofNat_of_zero_le whole.le
    have far : significand * 10 ^ n < limit → n < 310 := by
      intro below
      by_contra far
      have grows : 10 ^ 310 ≤ 10 ^ n := by gcongr <;> omega
      have multiplied := Nat.le_mul_of_pos_left (10 ^ n) (Nat.pos_of_ne_zero zero)
      omega
    rw [if_neg zero, if_pos whole, Bool.and_eq_true, decide_eq_true_eq, decide_eq_true_eq,
      Int.toNat_natCast, Nat.pow_eq, zpow_natCast]
    norm_cast
    exact ⟨And.right, fun below => ⟨far below, below⟩⟩
  · obtain ⟨n, rfl⟩ : ∃ n : ℕ, exponent = -n := ⟨(-exponent).toNat, by omega⟩
    rw [if_neg zero, if_neg fraction.not_gt, decide_eq_true_eq, neg_neg, Int.toNat_natCast,
      Nat.pow_eq, zpow_neg, zpow_natCast, ← div_eq_mul_inv, div_lt_iff₀ (by positivity)]
    norm_cast
    obtain near | far := le_total n (significand.log2 + 1)
    · rw [min_eq_left near]
    · rw [min_eq_right far]
      have below : significand < limit * 10 ^ (significand.log2 + 1) :=
        lt_of_lt_of_le (lt_ten_pow_log2_succ significand) (Nat.le_mul_of_pos_left _ pos)
      have grows := Nat.mul_le_mul_left limit (Nat.pow_le_pow_right (show 0 < 10 by norm_num) far)
      exact iff_of_true below (lt_of_lt_of_le below grows)

end Toml

namespace Configuration

open Toml

/-- The scalar stands in the value, at any depth. -/
inductive Occurs (content : Scalar) : Value → Prop where
  | here : Occurs content (.scalar content)
  | array {items : List Value} {item : Value} :
      item ∈ items → Occurs content item → Occurs content (.array items)
  | tables {items : List Value} {item : Value} :
      item ∈ items → Occurs content item → Occurs content (.tables items)
  | table {origin : Origin} {fields : List (String × Value)} {key : String} {value : Value} :
      (key, value) ∈ fields → Occurs content value → Occurs content (.table origin fields)

/-- Every number in the value is readable. -/
def AllReadable (value : Value) : Prop :=
  ∀ content, Occurs content value → content.isReadable = true

theorem allReadable_scalar_iff (content : Scalar) :
    AllReadable (.scalar content) ↔ content.isReadable = true := by
  constructor
  · intro readable
    exact readable content .here
  · rintro readable _ ⟨⟩
    exact readable

theorem allReadable_array_iff (items : List Value) :
    AllReadable (.array items) ↔ ∀ item ∈ items, AllReadable item := by
  constructor
  · intro readable item member content occurs
    exact readable content (.array member occurs)
  · rintro readable content (_ | ⟨member, occurs⟩)
    exact readable _ member content occurs

theorem allReadable_tables_iff (items : List Value) :
    AllReadable (.tables items) ↔ ∀ item ∈ items, AllReadable item := by
  constructor
  · intro readable item member content occurs
    exact readable content (.tables member occurs)
  · rintro readable content (_ | _ | ⟨member, occurs⟩)
    exact readable _ member content occurs

theorem allReadable_table_iff (origin : Origin) (fields : List (String × Value)) :
    AllReadable (.table origin fields) ↔
      ∀ key value, (key, value) ∈ fields → AllReadable value := by
  constructor
  · intro readable key value member content occurs
    exact readable content (.table member occurs)
  · rintro readable content (_ | _ | _ | ⟨member, occurs⟩)
    exact readable _ _ member content occurs

mutual

theorem valueIsReadable_iff : ∀ value, valueIsReadable value = true ↔ AllReadable value
  | .scalar content => by rw [valueIsReadable, allReadable_scalar_iff]
  | .array items => by rw [valueIsReadable, itemsAreReadable_iff, allReadable_array_iff]
  | .tables items => by rw [valueIsReadable, itemsAreReadable_iff, allReadable_tables_iff]
  | .table origin fields => by rw [valueIsReadable, fieldsAreReadable_iff, allReadable_table_iff]

theorem itemsAreReadable_iff :
    ∀ items, itemsAreReadable items = true ↔ ∀ item ∈ items, AllReadable item
  | [] => by simp [itemsAreReadable]
  | value :: rest => by
    rw [itemsAreReadable, Bool.and_eq_true, valueIsReadable_iff, itemsAreReadable_iff,
      List.forall_mem_cons]

theorem fieldsAreReadable_iff : ∀ fields, fieldsAreReadable fields = true ↔
    ∀ key value, (key, value) ∈ fields → AllReadable value
  | [] => by simp [fieldsAreReadable]
  | (key, value) :: rest => by
    rw [fieldsAreReadable, Bool.and_eq_true, valueIsReadable_iff, fieldsAreReadable_iff]
    simp only [List.mem_cons, Prod.mk.injEq]
    constructor
    · rintro ⟨first, later⟩ k v (⟨rfl, rfl⟩ | member)
      · exact first
      · exact later k v member
    · intro readable
      exact ⟨readable key value (Or.inl ⟨rfl, rfl⟩),
        fun k v member => readable k v (Or.inr member)⟩

end

/-- Every number under a key that is not known is readable. -/
def OthersReadable (known : List String) (fields : Fields) : Prop :=
  ∀ key value, (key, value) ∈ fields → key ∉ known → AllReadable value

theorem othersAreReadable_iff (known : List String) (fields : Fields) :
    othersAreReadable known fields = true ↔ OthersReadable known fields := by
  simp only [othersAreReadable, List.all_eq_true, Bool.or_eq_true, List.contains_iff_mem,
    valueIsReadable_iff, or_iff_not_imp_left, Prod.forall, OthersReadable]

end Configuration

end UnitCatalogue
