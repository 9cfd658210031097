import Mathlib
import UnitCatalogue.Proofs.ShortestDecimals
import UnitCatalogue.Sheet.Cell
import UnitCatalogue.Text.Pieces

/-!
# Texts of numbers

A number in a cell is written in positional notation, and the text rounds back to the number. Whole
numbers up to the precision limit are written with the same digits whether a cell holds them as
whole numbers or as binary ones.
-/

namespace UnitCatalogue.Decimal

def isDigits (text : List Char) : Bool := !text.isEmpty && text.all Char.isDigit

/-- The value of digits with one point at most, and with digits on both sides of it. -/
def readUnsigned? (text : List Char) : Option ℚ :=
  match Text.pieces '.' text with
  | [whole] => if isDigits whole then some (Nat.ofDigitChars 10 whole 0) else none
  | [whole, fraction] =>
    if isDigits whole && isDigits fraction then
      some (Nat.ofDigitChars 10 (whole ++ fraction) 0 / 10 ^ fraction.length)
    else none
  | _ => none

def readDecimal? : List Char → Option ℚ
  | '-' :: text => (readUnsigned? text).map (- ·)
  | text => readUnsigned? text

theorem isDigits_iff {text : List Char} :
    isDigits text = true ↔ text ≠ [] ∧ ∀ c ∈ text, c.isDigit = true := by
  simp [isDigits]

theorem point_not_mem {text : List Char} (digits : ∀ c ∈ text, c.isDigit = true) : '.' ∉ text :=
  fun point => absurd (digits _ point) (by decide)

theorem readUnsigned?_whole {whole : List Char} (digits : isDigits whole = true) :
    readUnsigned? whole = some (Nat.ofDigitChars 10 whole 0 : ℚ) := by
  have plain := point_not_mem (isDigits_iff.mp digits).2
  rw [readUnsigned?, Text.pieces_of_not_mem plain]
  exact if_pos digits

theorem readUnsigned?_point {whole fraction : List Char} (digits : isDigits whole = true)
    (digits' : isDigits fraction = true) : readUnsigned? (whole ++ '.' :: fraction) =
      some (Nat.ofDigitChars 10 (whole ++ fraction) 0 / 10 ^ fraction.length : ℚ) := by
  have plain := point_not_mem (isDigits_iff.mp digits).2
  have plain' := point_not_mem (isDigits_iff.mp digits').2
  rw [readUnsigned?, Text.pieces_append_cut plain, Text.pieces_of_not_mem plain']
  exact if_pos (by rw [digits, digits']; rfl)

theorem isDigit_of_mem_natText {n : ℕ} {c : Char} (member : c ∈ natText n) : c.isDigit = true :=
  Nat.isDigit_of_mem_toDigits (by norm_num) le_rfl member

theorem natText_ne_nil (n : ℕ) : natText n ≠ [] := Nat.toDigits_ne_nil

theorem isDigit_of_mem_replicate {count : ℕ} {c : Char} (member : c ∈ List.replicate count '0') :
    c.isDigit = true := by
  rw [List.eq_of_mem_replicate member]
  rfl

theorem ofDigitChars_natText (n : ℕ) : Nat.ofDigitChars 10 (natText n) 0 = n :=
  Nat.ofDigitChars_ten_toDigits

/-- A multiple of a power of ten ends in noughts. -/
theorem natText_mul_pow {n : ℕ} (positive : 0 < n) (count : ℕ) :
    natText (n * 10 ^ count) = natText n ++ List.replicate count '0' := by
  induction count with
  | zero => simp
  | succ count ih =>
    have nought : Nat.toDigits 10 0 = ['0'] := rfl
    have longer := Nat.toDigits_append_toDigits (b := 10) (n := n * 10 ^ count) (d := 0)
      (by norm_num) (by positivity) (by norm_num)
    rw [List.replicate_succ', ← List.append_assoc, ← ih, natText, natText, ← nought, longer]
    congr 1
    ring

namespace Scientific

variable (x : Scientific)

theorem text_of_whole (whole : 0 ≤ x.exponent) :
    isDigits x.text = true ∧ Nat.ofDigitChars 10 x.text 0 = x.digits * 10 ^ x.exponent.toNat := by
  rw [text, if_pos whole, isDigits_iff, Nat.ofDigitChars_append, ofDigitChars_natText,
    Nat.ofDigitChars_replicate_zero]
  refine ⟨⟨List.append_ne_nil_of_left_ne_nil (natText_ne_nil _) _, fun c member => ?_⟩,
    mul_comm _ _⟩
  obtain member | member := List.mem_append.mp member
  · exact isDigit_of_mem_natText member
  · exact isDigit_of_mem_replicate member

theorem text_of_fraction (fraction : x.exponent < 0) : ∃ before after,
    x.text = before ++ '.' :: after ∧ isDigits before = true ∧ isDigits after = true ∧
      Nat.ofDigitChars 10 (before ++ after) 0 = x.digits ∧ after.length = (-x.exponent).toNat := by
  have places_pos : 0 < (-x.exponent).toNat := by omega
  have digits : ∀ c ∈ natText x.digits, c.isDigit = true := fun c => isDigit_of_mem_natText
  rw [text, if_neg (by omega), withPoint]
  generalize (-x.exponent).toNat = places at *
  simp only [isDigits_iff, ← List.length_pos_iff]
  split
  · next short =>
    refine ⟨_, _, rfl, ⟨?_, fun c member => digits c (List.mem_of_mem_take member)⟩,
      ⟨?_, fun c member => digits c (List.mem_of_mem_drop member)⟩, ?_, ?_⟩
    · rw [List.length_take]
      omega
    · rw [List.length_drop]
      omega
    · rw [List.take_append_drop, ofDigitChars_natText]
    · rw [List.length_drop]
      omega
  · next long =>
    refine ⟨['0'], List.replicate (places - (natText x.digits).length) '0' ++ natText x.digits,
      rfl, ⟨by decide, by simp⟩, ⟨?_, fun c member => ?_⟩, ?_, ?_⟩
    · rw [List.length_append, List.length_replicate]
      omega
    · obtain nought | digit := List.mem_append.mp member
      · exact isDigit_of_mem_replicate nought
      · exact digits c digit
    · rw [Nat.ofDigitChars_append, Nat.ofDigitChars_append, show Nat.ofDigitChars 10 ['0'] 0 = 0 by
        rfl, Nat.ofDigitChars_replicate_zero, mul_zero, ofDigitChars_natText]
    · rw [List.length_append, List.length_replicate]
      omega

theorem plain_of_mem_text {c : Char} (member : c ∈ x.text) : c.isDigit = true ∨ c = '.' := by
  obtain whole | fraction := le_or_gt 0 x.exponent
  · exact Or.inl ((isDigits_iff.mp (x.text_of_whole whole).1).2 c member)
  · obtain ⟨before, after, written, digits, digits', _⟩ := x.text_of_fraction fraction
    rw [written, List.mem_append, List.mem_cons] at member
    obtain member | rfl | member := member
    · exact Or.inl ((isDigits_iff.mp digits).2 c member)
    · exact Or.inr rfl
    · exact Or.inl ((isDigits_iff.mp digits').2 c member)

theorem point_mem_text_iff : '.' ∈ x.text ↔ x.exponent < 0 := by
  constructor
  · intro point
    by_contra whole
    exact point_not_mem (isDigits_iff.mp (x.text_of_whole (by omega)).1).2 point
  · intro fraction
    obtain ⟨before, after, written, _⟩ := x.text_of_fraction fraction
    rw [written]
    exact List.mem_append_right _ List.mem_cons_self

theorem readUnsigned?_text : readUnsigned? x.text = some x.value := by
  obtain whole | fraction := le_or_gt 0 x.exponent
  · obtain ⟨digits, number⟩ := x.text_of_whole whole
    rw [readUnsigned?_whole digits, number, value_eq_natCast whole]
  · obtain ⟨before, after, written, digits, digits', number, length⟩ := x.text_of_fraction fraction
    rw [written, readUnsigned?_point digits digits', number, length, value,
      zpow_eq_toNat_div, show x.exponent.toNat = 0 by omega, pow_zero, mul_one_div]

theorem text_of_natCast {x : Scientific} {n : ℕ} (whole : 0 ≤ x.exponent) (told : x.value = n)
    (positive : 0 < n) : x.text = natText n := by
  rw [value_eq_natCast whole, Nat.cast_inj] at told
  subst told
  rw [text, if_pos whole, natText_mul_pow (Nat.pos_of_mul_pos_right positive)]

end Scientific

theorem readDecimal?_signed {text : List Char} {q : ℚ} (negative : Bool)
    (reads : readUnsigned? text = some q) (unsigned : '-' ∉ text) :
    readDecimal? (signed negative text) = some (signOf negative * q) := by
  cases negative
  · rw [signed, if_neg Bool.false_ne_true, readDecimal?, reads]
    · simp [signOf]
    · rintro rest rfl
      exact unsigned List.mem_cons_self
  · rw [signed, if_pos rfl, readDecimal?, reads]
    simp [signOf]

theorem mem_signed_iff {c : Char} {negative : Bool} {text : List Char} :
    c ∈ signed negative text ↔ negative = true ∧ c = '-' ∨ c ∈ text := by
  cases negative <;> simp [signed]

theorem intText_eq (n : ℤ) : intText n = signed (decide (n < 0)) (natText n.natAbs) := by
  unfold intText signed
  simp

/-- The sign and the interval that the text of a number other than zero is found from. -/
theorem Binary64.exists_rounding {x : Binary64} {v : ℚ} (told : x.value? = some v)
    (nonzero : v ≠ 0) : ∃ negative r, Rounding.IsTold r ∧ v = signOf negative * r.value ∧
      x.text = signed negative r.shortest.text ∧
      ∀ q, RoundsTo (signOf negative * q) x ↔ r.Contains q := by
  obtain ⟨negative, m, e, meaning, rfl⟩ := value?_eq_some_iff.mp told
  have positive : 0 < m := by
    apply Nat.pos_of_ne_zero
    rintro rfl
    apply nonzero
    rw [Nat.cast_zero, zero_mul, mul_zero]
  refine ⟨negative, ⟨m, e, x.narrowBelow⟩, isTold_of_meaning meaning positive, rfl, ?_,
    fun q => roundsTo_iff_contains meaning positive⟩
  unfold text
  rw [meaning]
  exact if_neg positive.ne'

theorem Rounding.IsTold.value_pos {r : Rounding} (told : r.IsTold) : 0 < r.value :=
  mul_pos (by exact_mod_cast told.positive) (by positivity)

/-- Whole numbers up to the precision limit are displayed with their own digits. -/
theorem Binary64.text_of_whole {x : Binary64} {n : ℤ} (told : x.value? = some (n : ℚ))
    (nonzero : n ≠ 0) (small : n.natAbs ≤ 2 ^ 53) : x.text = intText n := by
  obtain ⟨negative, r, told, value, text, _⟩ :=
    exists_rounding told (Int.cast_ne_zero.mpr nonzero)
  have positive := told.value_pos
  have size : r.value = n.natAbs := by
    have sizes := congrArg abs value
    rw [abs_signOf_mul, abs_of_pos positive] at sizes
    rw [Nat.cast_natAbs, Int.cast_abs, sizes]
  have sign : negative = decide (n < 0) := by
    rw [Bool.eq_iff_iff, decide_eq_true_iff, ← Int.cast_lt_zero (R := ℚ), value]
    cases negative <;> simp [signOf, positive, positive.le]
  have whole := told.exponent_nonneg_iff.mpr ⟨n.natAbs, by rw [size, Int.cast_natCast]⟩
  rw [text, intText_eq, sign, Scientific.text_of_natCast whole (told.shortest_value_eq size small)
    (Int.natAbs_pos.mpr nonzero)]

theorem exists_int_signOf_mul_iff {negative : Bool} {a : ℚ} :
    (∃ n : ℤ, signOf negative * a = n) ↔ ∃ n : ℤ, a = n := by
  cases negative
  · simp [signOf]
  · simp only [signOf, reduceIte, neg_one_mul]
    constructor
    · rintro ⟨n, told⟩
      exact ⟨-n, by push_cast; linarith⟩
    · rintro ⟨n, rfl⟩
      exact ⟨-n, by push_cast; rfl⟩

/-- No decimal that rounds to a number has fewer digits than its shortest one. -/
theorem Rounding.IsTold.fewest_digits_signed {r : Rounding} (told : r.IsTold) {negative : Bool}
    {digits grid : ℤ} (held : r.Contains (signOf negative * (digits * 10 ^ grid))) :
    (Nat.toDigits 10 r.shortest.digits).length ≤ (Nat.toDigits 10 digits.natAbs).length := by
  refine told.fewest_digits (?_ : r.Contains (digits.natAbs * 10 ^ grid))
  have positive := told.lowEnd_pos.trans_le held.low
  rw [← abs_of_pos positive, abs_signOf_mul, abs_mul, abs_of_pos (a := (10 : ℚ) ^ grid)
    (by positivity)] at held
  rwa [Nat.cast_natAbs, Int.cast_abs]

end UnitCatalogue.Decimal

namespace UnitCatalogue.Sheet

open Decimal

section Cells

variable {x : Binary64} {v : ℚ} {n : ℤ}

theorem numberText_of_whole (told : x.value? = some (n : ℚ)) (small : n.natAbs ≤ 2 ^ 53) :
    numberText x = intText n := by
  unfold numberText
  rw [Binary64.whole?_eq_some_iff.mpr told]
  simp only
  split
  · rfl
  · next large =>
    apply Binary64.text_of_whole told _ small
    rintro rfl
    exact large (by decide)

/-- The two ways to write a number differ at zero only, where one of them keeps the sign. -/
theorem numberText_of_ne_zero (told : x.value? = some v) (nonzero : v ≠ 0) :
    numberText x = x.text := by
  unfold numberText
  split
  · next n whole =>
    split
    · next small =>
      rw [Binary64.whole?_eq_some_iff, told, Option.some_inj] at whole
      subst whole
      have limit : wholeLimit ≤ 2 ^ 53 := by decide
      exact (Binary64.text_of_whole told (Int.cast_ne_zero.mp nonzero) (by omega)).symm
    · rfl
  · rfl

end Cells

/-- The text of a number holds digits, a sign and a point at most, and the point only before a
fraction. Read as a decimal it rounds to the number, and no shorter decimal does. -/
structure ShowsNumber (text : List Char) (x : Binary64) (v : ℚ) : Prop where
  plain : ∀ c ∈ text, c.isDigit = true ∨ c = '-' ∨ c = '.'
  point_iff : '.' ∈ text ↔ ¬∃ n : ℤ, v = n
  reads : ∃ digits grid : ℤ, readDecimal? text = some (digits * 10 ^ grid : ℚ) ∧
    (∀ y, RoundsTo (digits * 10 ^ grid) y ↔ y = x ∨ y.value? = some 0 ∧ v = 0) ∧
    ∀ digits' grid' : ℤ, RoundsTo (digits' * 10 ^ grid') x →
      (Nat.toDigits 10 digits.natAbs).length ≤ (Nat.toDigits 10 digits'.natAbs).length

theorem showsNumber_signed {x : Binary64} {v : ℚ} {negative : Bool} {s : Scientific}
    (told : x.value? = some v) (rounds : RoundsTo (signOf negative * s.value) x)
    (zero : v = 0 → s.value = 0) (whole_iff : 0 ≤ s.exponent ↔ ∃ n : ℤ, v = n)
    (fewest : ∀ digits' grid' : ℤ, RoundsTo (digits' * 10 ^ grid') x →
      (Nat.toDigits 10 s.digits).length ≤ (Nat.toDigits 10 digits'.natAbs).length) :
    ShowsNumber (signed negative s.text) x v := by
  have unsigned : '-' ∉ s.text := fun sign => absurd (s.plain_of_mem_text sign) (by decide)
  obtain ⟨digits, signed_digits, size⟩ : ∃ digits : ℤ,
      (digits : ℚ) = signOf negative * s.digits ∧ digits.natAbs = s.digits := by
    cases negative
    · exact ⟨s.digits, by simp [signOf], rfl⟩
    · exact ⟨-s.digits, by simp [signOf], by rw [Int.natAbs_neg, Int.natAbs_natCast]⟩
  have read : (digits * 10 ^ s.exponent : ℚ) = signOf negative * s.value := by
    rw [signed_digits, mul_assoc, Scientific.value]
  refine ⟨fun c member => ?_, ?_, digits, s.exponent, ?_, fun y => ?_, ?_⟩
  · obtain ⟨_, rfl⟩ | member := mem_signed_iff.mp member
    · exact Or.inr (Or.inl rfl)
    · exact (s.plain_of_mem_text member).imp_right Or.inr
  · rw [← whole_iff, not_le, ← Scientific.point_mem_text_iff, mem_signed_iff]
    simp
  · rw [read, readDecimal?_signed negative s.readUnsigned?_text unsigned]
  · rw [read]
    exact rounds.iff told fun nothing => by rw [zero nothing, mul_zero]
  · rw [size]
    exact fewest

theorem showsNumber_zero {x : Binary64} (told : x.value? = some 0) :
    ShowsNumber (numberText x) x 0 := by
  have written : numberText x = signed false (Scientific.text ⟨0, 0⟩) :=
    numberText_of_whole (n := 0) (by rw [told, Int.cast_zero]) (by norm_num)
  have nothing : Scientific.value ⟨0, 0⟩ = 0 := by rw [Scientific.value, Nat.cast_zero, zero_mul]
  rw [written]
  apply showsNumber_signed told
  · rw [nothing, mul_zero]
    exact Binary64.roundsTo_value told
  · exact fun _ => nothing
  · exact iff_of_true le_rfl ⟨0, Int.cast_zero.symm⟩
  · exact fun _ _ _ => Nat.length_toDigits_pos

theorem showsNumber_of_ne_zero {x : Binary64} {v : ℚ} (told : x.value? = some v) (nonzero : v ≠ 0) :
    ShowsNumber (numberText x) x v := by
  obtain ⟨negative, r, is_told, value, written, rounds⟩ := Binary64.exists_rounding told nonzero
  rw [numberText_of_ne_zero told nonzero, written]
  apply showsNumber_signed told
  · exact (rounds _).mpr is_told.isCoarsest_shortest.1
  · exact fun zero => absurd zero nonzero
  · rw [is_told.exponent_nonneg_iff, value, exists_int_signOf_mul_iff]
  · intro digits grid held
    apply is_told.fewest_digits_signed
    rwa [← rounds, ← mul_assoc, signOf_mul_self, one_mul]

/-- A numeric code has one spelling. Up to the precision limit a whole number is written with its
decimal digits, whichever kind of cell it comes from and whichever way it is written; and any number
is written so that the text rounds back to it. -/
theorem numeric_codes_have_one_spelling :
    (∀ n : ℤ, n.natAbs ≤ 2 ^ 53 →
      (∃ x : Binary64, x.value? = some (n : ℚ)) ∧
      ∀ x : Binary64, x.value? = some (n : ℚ) →
        Cell.text? (.number x) = Cell.text? (.integer n) ∧
        Cell.text? (.integer n) =
          some (String.ofList ((if n < 0 then ['-'] else []) ++ Nat.toDigits 10 n.natAbs)) ∧
        (n ≠ 0 → x.text = intText n)) ∧
    (∀ (x : Binary64) (n : ℤ), x.whole? = some n → n.natAbs < wholeLimit →
      Int64.minValue.toInt ≤ n ∧ n ≤ Int64.maxValue.toInt) ∧
    ∀ (x : Binary64) (v : ℚ), x.value? = some v → ∃ text,
      Cell.text? (.number x) = some (String.ofList text) ∧ ShowsNumber text x v := by
  refine ⟨fun n small => ⟨?_, fun x told => ⟨?_, ?_, fun nonzero => ?_⟩⟩, fun x n _ below => ?_,
    fun x v told => ⟨numberText x, rfl, ?_⟩⟩
  · exact exists_value?_of_whole small
  · rw [Cell.text?, Cell.text?, numberText_of_whole told small]
  · rw [Cell.text?, intText]
    split <;> rfl
  · exact Binary64.text_of_whole told nonzero small
  · have limit : wholeLimit = 10 ^ 15 := rfl
    have least : Int64.minValue.toInt = -2 ^ 63 := rfl
    have most : Int64.maxValue.toInt = 2 ^ 63 - 1 := rfl
    omega
  · obtain rfl | nonzero := eq_or_ne v 0
    · exact showsNumber_zero told
    · exact showsNumber_of_ne_zero told nonzero

/-- The first whole number that is not written from its value. -/
example : Cell.text? (.number ⟨0x430C6BF526340000⟩) = some "1000000000000000" := by decide +kernel

end UnitCatalogue.Sheet
