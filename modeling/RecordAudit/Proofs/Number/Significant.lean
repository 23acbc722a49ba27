import Mathlib.Algebra.Order.Field.Power
import RecordAudit.Number.Significance
import RecordAudit.Proofs.Number.Greatest
import RecordAudit.Proofs.Number.RoundTrip

/-!
# Numerals of few digits

A product of few digits is exact although it is rounded to 28 digits, and a numeral is rounded like
the fraction that it writes, however large its exponent is. At most fifteen significant digits
survive the way through the nearest floating-point number and back.
-/

namespace RecordAudit.Number

/-! ## Powers of ten -/

theorem ten_zpow_pos (e : Int) : (0 : Rat) < (10 : Rat) ^ e := zpow_pos (by decide) e

theorem tenPow_eq (e : Int) : tenPow e = (10 : Rat) ^ e := by
  unfold tenPow
  split
  · next nonneg =>
    obtain ⟨n, rfl⟩ := Int.eq_ofNat_of_zero_le nonneg
    rw [Int.toNat_natCast, zpow_natCast, Rat.mkRat_eq_div]
    simp
  · next negative =>
    obtain ⟨n, rfl⟩ : ∃ n : Nat, e = -n := ⟨e.natAbs, by omega⟩
    rw [neg_neg, Int.toNat_natCast, zpow_neg, zpow_natCast, Rat.mkRat_eq_div]
    simp

theorem ten_pow_mul_le_iff {n num den : Nat} (pos : 0 < den) :
    (10 : Rat) ^ (n : Int) ≤ (num : Rat) / den ↔ 10 ^ n * den ≤ num := by
  rw [zpow_natCast, le_div_iff₀ (Nat.cast_pos.2 pos)]
  exact_mod_cast Iff.rfl

theorem mul_ten_pow_le_iff {n num den : Nat} (pos : 0 < den) :
    (num : Rat) / den ≤ (10 : Rat) ^ (-(n : Int)) ↔ num * 10 ^ n ≤ den := by
  rw [zpow_neg, zpow_natCast, inv_eq_one_div,
    div_le_div_iff₀ (Nat.cast_pos.2 pos) (by exact_mod_cast ten_pow_pos n)]
  rw [one_mul]
  exact_mod_cast Iff.rfl

/-- The number has at most so many significant digits. -/
def HasDigits (digits : Nat) (q : Rat) : Prop :=
  ∃ (m : Nat) (k : Int), m < 10 ^ digits ∧ |q| = m * (10 : Rat) ^ k

/-- Trailing zeros of the digits are a part of the exponent. -/
theorem mul_ten_pow (m n : Nat) (e : Int) :
    ((m * 10 ^ n : Nat) : Rat) * (10 : Rat) ^ e = m * (10 : Rat) ^ (e + n) := by
  rw [zpow_add₀ (by decide), zpow_natCast]
  push_cast
  ring

theorem HasDigits.mul_zpow {digits : Nat} {q : Rat} (h : HasDigits digits q) (e : Int) :
    HasDigits digits (q * (10 : Rat) ^ e) := by
  obtain ⟨m, k, few, value⟩ := h
  refine ⟨m, k + e, few, ?_⟩
  rw [abs_mul, value, abs_of_pos (ten_zpow_pos e), zpow_add₀ (by decide), mul_assoc]

namespace Numeral

variable {x : Numeral}

theorem abs_value_eq (x : Numeral) : |x.value| = x.coefficient * (10 : Rat) ^ x.exponent := by
  have nonneg : (0 : Rat) ≤ x.coefficient * (10 : Rat) ^ x.exponent :=
    mul_nonneg (Nat.cast_nonneg _) (ten_zpow_pos _).le
  unfold value
  rw [tenPow_eq]
  cases x.negative <;> simp [abs_of_nonneg nonneg]

theorem value_eq_zero_iff : x.value = 0 ↔ x.coefficient = 0 := by
  rw [← abs_eq_zero, abs_value_eq, mul_eq_zero_iff_right (ten_zpow_pos _).ne', Nat.cast_eq_zero]

theorem value_mulExact (x y : Numeral) : (x.mulExact y).value = x.value * y.value := by
  have magnitude : ((x.coefficient * y.coefficient : Nat) : Rat) *
      (10 : Rat) ^ (x.exponent + y.exponent) = x.coefficient * (10 : Rat) ^ x.exponent *
          (y.coefficient * (10 : Rat) ^ y.exponent) := by
    rw [zpow_add₀ (by decide)]
    push_cast
    ring
  unfold mulExact value
  simp only [tenPow_eq, magnitude]
  cases x.negative <;> cases y.negative <;> simp

theorem exists_trailing {digits : Nat} (h : HasDigits digits x.value) (most : digits ≤ 28)
    (many : 28 < digitCount x.coefficient) :
    10 ^ (digitCount x.coefficient - 28) ∣ x.coefficient := by
  obtain ⟨m, k, few, value⟩ := h
  rw [abs_value_eq] at value
  obtain ⟨s, hs⟩ : ∃ s, digitCount x.coefficient = 28 + (s + 1) :=
    ⟨digitCount x.coefficient - 29, by omega⟩
  have nonzero : x.coefficient ≠ 0 := fun zero => by
    rw [zero] at many
    exact absurd many (by decide)
  have large : 10 ^ (28 + s) ≤ x.coefficient := (lt_digitCount_iff nonzero).1 (by omega)
  have coefficient : (x.coefficient : Rat) = m * (10 : Rat) ^ (k - x.exponent) := by
    rw [zpow_sub₀ (by decide), ← mul_div_assoc, ← value]
    exact (mul_div_cancel_right₀ _ (ten_zpow_pos _).ne').symm
  have enough : (s + 1 : Int) ≤ k - x.exponent := by
    by_contra less
    have step : (10 : Rat) ^ (k - x.exponent) ≤ (10 : Rat) ^ (s : Int) :=
      zpow_le_zpow_right₀ (by decide) (by omega)
    have few_digits : (x.coefficient : Rat) ≤ (m * 10 ^ s : Nat) := by
      rw [coefficient, Nat.cast_mul, Nat.cast_pow, ← zpow_natCast]
      exact mul_le_mul_of_nonneg_left step (Nat.cast_nonneg m)
    have short : m * 10 ^ s < 10 ^ (28 + s) := by
      rw [Nat.pow_add]
      exact Nat.mul_lt_mul_of_pos_right (few.trans_le (Nat.pow_le_pow_right (by decide) most))
        (ten_pow_pos s)
    have := Nat.cast_le.1 few_digits
    omega
  obtain ⟨t, ht⟩ : ∃ t : Nat, k - x.exponent = (t + (s + 1) : Nat) :=
    ⟨(k - x.exponent - (s + 1)).toNat, by omega⟩
  rw [ht, zpow_natCast] at coefficient
  have whole : x.coefficient = m * 10 ^ (t + (s + 1)) := by exact_mod_cast coefficient
  rw [hs, Nat.add_sub_cancel_left, whole, Nat.pow_add]
  exact ⟨m * 10 ^ t, by ring⟩

theorem roundDiv_of_dvd {num den : Nat} (pos : 0 < den) (h : den ∣ num) :
    Binary64.roundDiv num den = num / den := by
  simp [Binary64.roundDiv, Nat.mod_eq_zero_of_dvd h, pos]

theorem value_roundTo {digits : Nat} (h : HasDigits digits x.value) (most : digits ≤ 28) :
    (x.roundTo significantDigits).value = x.value := by
  have divides : 10 ^ (digitCount x.coefficient - 28) ∣ x.coefficient := by
    rcases Nat.lt_or_ge 28 (digitCount x.coefficient) with many | few
    · exact exists_trailing h most many
    · simp [Nat.sub_eq_zero_of_le few]
  obtain ⟨c, whole⟩ := divides
  have rounded : Binary64.roundDiv x.coefficient (Nat.pow 10 (digitCount x.coefficient - 28)) = c :=
    (roundDiv_of_dvd (ten_pow_pos _) ⟨c, whole⟩).trans
      (Nat.div_eq_of_eq_mul_right (ten_pow_pos _) whole)
  have magnitude : (c : Rat) * tenPow (x.exponent + (digitCount x.coefficient - 28 : Nat)) =
      x.coefficient * tenPow x.exponent := by
    rw [tenPow_eq, tenPow_eq, ← mul_ten_pow, Nat.mul_comm, ← whole]
  unfold roundTo value significantDigits
  dsimp only
  rw [rounded, magnitude]

theorem value_mul_of_le {y : Numeral} {digits : Nat} (h : HasDigits digits (x.value * y.value))
    (most : digits ≤ 28) :
    (x.mul y).value = x.value * y.value := by
  rw [← value_mulExact] at h ⊢
  exact value_roundTo h most

theorem value_mul {y : Numeral} (h : HasDigits 15 (x.value * y.value)) :
    (x.mul y).value = x.value * y.value :=
  value_mul_of_le h (by decide)

/-- The exponent of the leading digit tells the magnitude. -/
theorem abs_value_leadingExponent (nonzero : x.coefficient ≠ 0) :
    (10 : Rat) ^ x.leadingExponent ≤ |x.value| ∧
      |x.value| < (10 : Rat) ^ (x.leadingExponent + 1) := by
  obtain ⟨d, digits⟩ : ∃ d, digitCount x.coefficient = d + 1 :=
    ⟨digitCount x.coefficient - 1, (Nat.sub_add_cancel Nat.length_toDigits_pos).symm⟩
  have below : x.coefficient < 10 ^ (d + 1) := (digitCount_le_iff (by omega)).1 digits.le
  have above : 10 ^ d ≤ x.coefficient := (lt_digitCount_iff nonzero).1 (by omega)
  have first : x.leadingExponent = d + x.exponent := by
    unfold leadingExponent
    omega
  have next : x.leadingExponent + 1 = (d + 1 : Nat) + x.exponent := by omega
  rw [next, first, zpow_add₀ (by decide), zpow_add₀ (by decide), zpow_natCast,
    zpow_natCast, abs_value_eq]
  exact ⟨mul_le_mul_of_nonneg_right (by exact_mod_cast above) (ten_zpow_pos _).le,
    mul_lt_mul_of_pos_right (by exact_mod_cast below) (ten_zpow_pos _)⟩

/-- A numeral beyond the limits is far too small or far too great, unless its digits are more than
there can be. -/
theorem far_of_not_withinLimits {x : Numeral} (digits : digitCount x.coefficient ≤ 10 ^ 18)
    (beyond : x.withinLimits = false) :
    |x.value| ≤ (10 : Rat) ^ (-400 : Int) ∨ (10 : Rat) ^ (400 : Int) ≤ |x.value| := by
  by_cases zero : x.coefficient = 0
  · rw [value_eq_zero_iff.2 zero, abs_zero]
    exact .inl (ten_zpow_pos _).le
  · obtain ⟨lead, next⟩ := abs_value_leadingExponent zero
    have sides : x.leadingExponent + 1 ≤ -400 ∨ 400 ≤ x.leadingExponent := by
      have outside : ¬(minExponent ≤ x.exponent ∧ x.leadingExponent ≤ maxLeadingExponent) := by
        simpa [withinLimits] using beyond
      unfold minExponent maxLeadingExponent leadingExponent at *
      omega
    rcases sides with small | large
    · exact .inl (next.le.trans (zpow_le_zpow_right₀ (by decide) small))
    · exact .inr ((zpow_le_zpow_right₀ (by decide) large).trans lead)

end Numeral

/-- The number lies between the bounds inside which numbers of few digits are kept. -/
def IsModerate (q : Rat) : Prop := (10 : Rat) ^ (-290 : Int) ≤ |q| ∧ |q| ≤ (10 : Rat) ^ (290 : Int)

theorem IsModerate.ne_zero {q : Rat} (h : IsModerate q) : q ≠ 0 := by
  rintro rfl
  exact absurd h.1 (not_le.2 (abs_zero (α := Rat) ▸ ten_zpow_pos _))

theorem IsModerate.bounds {q : Rat} {a b : Nat} (pos : 0 < b) (h : IsModerate q)
    (value : |q| = (a : Rat) / b) :
    b ≤ a * 10 ^ 290 ∧ a ≤ b * 10 ^ 290 := by
  obtain ⟨lower, upper⟩ := h
  have small : ∀ n : Nat, (10 : Rat) ^ (-(n : Int)) = (1 : Nat) / (10 ^ n : Nat) := fun n => by simp
  have large : ∀ n : Nat, (10 : Rat) ^ (n : Int) = (10 ^ n : Nat) / (1 : Nat) := fun n => by simp
  have least := (small 290).symm.trans_le lower
  have greatest := upper.trans_eq (large 290)
  rw [value] at least greatest
  have low := (div_le_div_nat (ten_pow_pos 290) pos).1 least
  have high := (div_le_div_nat pos (by decide)).1 greatest
  rw [Nat.one_mul] at low
  rw [Nat.mul_one, Nat.mul_comm] at high
  exact ⟨low, high⟩

namespace Binary64

/-- Half the least number that is not zero, or less, is rounded to zero. -/
theorem ofRatio_eq_zero {num den : Nat} (pos : 0 < den) (h : num * 10 ^ 324 ≤ den)
    (negative : Bool) :
    ofRatio negative num den = zero negative := by
  have least : units 0 + units 1 = 1 := by decide
  have small : unitsPerOne * 2 ≤ 10 ^ 324 := half_units_lt.le
  have rank : nearestRank (num * unitsPerOne) den = 0 := by
    refine Nat.le_zero.1 (nearestRank_le pos (.inr ⟨?_, rfl⟩))
    calc 2 * (num * unitsPerOne) = num * (unitsPerOne * 2) := by ring
      _ ≤ num * 10 ^ 324 := Nat.mul_le_mul_left num small
      _ ≤ den := h
      _ = den * (units 0 + units 1) := by rw [least, Nat.mul_one]
  rw [ofRatio_eq, rank]
  rfl

/-- A numeral is rounded as the fraction that it writes: what is set apart for its size is rounded
to zero or infinity in any case. -/
theorem ofNumeral_eq (x : Numeral) :
    ofNumeral x = ofRatio x.negative (x.coefficient * 10 ^ x.exponent.toNat)
      (10 ^ (-x.exponent).toNat) := by
  have pos := ten_pow_pos (-x.exponent).toNat
  unfold ofNumeral decimalExponentBound
  split
  · next zero => rw [beq_iff_eq.1 zero, Nat.zero_mul,
      ofRatio_eq_zero pos (by rw [Nat.zero_mul]; exact pos.le)]
  next nonzero =>
  obtain ⟨lead, next⟩ := Numeral.abs_value_leadingExponent (x := x) (by simpa using nonzero)
  rw [abs_value] at lead next
  split
  · next large =>
    have least : (10 : Rat) ^ ((309 : Nat) : Int) ≤ (10 : Rat) ^ x.leadingExponent :=
      zpow_le_zpow_right₀ (by decide) (by omega)
    have high := (ten_pow_mul_le_iff pos).1 (least.trans lead)
    have room : 2 * 10 ^ 308 ≤ 10 ^ 309 := by
      rw [← mul_pow_eq 10 308 309 rfl]
      exact Nat.mul_le_mul_right _ (by decide)
    exact (ofRatio_eq_infinite pos ((Nat.mul_le_mul_right _ room).trans high) _).symm
  split
  · next small =>
    have most : (10 : Rat) ^ (x.leadingExponent + 1) ≤ (10 : Rat) ^ (-((324 : Nat) : Int)) :=
      zpow_le_zpow_right₀ (by decide) (by omega)
    exact (ofRatio_eq_zero pos ((mul_ten_pow_le_iff pos).1 (next.le.trans most)) _).symm
  split
  · next whole =>
    rw [Int.toNat_of_nonpos (by omega : -x.exponent ≤ 0)]
    rfl
  · next fraction =>
    rw [Int.toNat_of_nonpos (by omega : x.exponent ≤ 0), Nat.pow_zero, Nat.mul_one]
    rfl

theorem ofNumeral_eq_zero {x : Numeral} (small : |x.value| ≤ (10 : Rat) ^ (-324 : Int)) :
    ofNumeral x = zero x.negative := by
  have pos := ten_pow_pos (-x.exponent).toNat
  rw [abs_value] at small
  rw [ofNumeral_eq, ofRatio_eq_zero pos ((mul_ten_pow_le_iff (n := 324) pos).1 small)]

/-- A numeral of at most fifteen significant digits survives the way through the nearest
floating-point number. -/
theorem decimalValue?_ofNumeral {x : Numeral} (digits : HasDigits 15 x.value)
    (h : x.value = 0 ∨ IsModerate x.value) :
    (ofNumeral x).decimalValue? = some x.value := by
  rcases h with zero | moderate
  · have coefficient := Numeral.value_eq_zero_iff.1 zero
    rw [ofNumeral, if_pos (by simpa using coefficient), zero, decimalValue?_zero]
  obtain ⟨m, k, few, value⟩ := digits
  have positive : 0 < m := by
    rcases Nat.eq_zero_or_pos m with rfl | pos
    · exact absurd (by simpa using value) moderate.ne_zero
    · exact pos
  obtain ⟨lower, upper⟩ := moderate.bounds (ten_pow_pos _) (abs_value x)
  have decimal : x.coefficient * 10 ^ x.exponent.toNat * 10 ^ (-k).toNat =
      m * 10 ^ k.toNat * 10 ^ (-x.exponent).toNat := by
    have written := value.trans
      ((Numeral.abs_value_eq ⟨false, m, k⟩).symm.trans (abs_value ⟨false, m, k⟩))
    rw [abs_value, div_eq_div_iff] at written
    · exact_mod_cast written
    · exact Nat.cast_ne_zero.2 (Nat.ne_of_gt (ten_pow_pos _))
    · exact Nat.cast_ne_zero.2 (Nat.ne_of_gt (ten_pow_pos _))
  rw [ofNumeral_eq, Numeral.value_eq]
  exact decimalValue?_ofRatio (ten_pow_pos _) decimal few lower upper positive x.negative

theorem isFinite_of_decimalValue? {x : Binary64} {q : Rat} (h : x.decimalValue? = some q) :
    x.isFinite = true := by
  cases x with
  | finite => rfl
  | infinite | nan => cases h

end Binary64

end RecordAudit.Number
