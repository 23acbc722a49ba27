import Mathlib.Algebra.Order.Field.Basic
import Mathlib.Algebra.Order.Field.Rat
import Mathlib.Data.Rat.Lemmas
import RecordAudit.Proofs.Number.Decimal

/-!
# The greatest finite number

The decimal of a finite number is not greater than the greatest finite number. A step of one away
from it still ends at a fraction of few digits that is rounded to a finite number.
-/

namespace RecordAudit.Number

/-! ## Fractions -/

theorem lt_ten_pow (k : Nat) : k < 10 ^ k := Nat.lt_pow_self (by decide)

theorem half_units_pos : 0 < unitsPerOne * 2 := Nat.mul_pos unitsPerOne_pos (by decide)

theorem div_le_div_nat {a b c d : Nat} (hb : 0 < b) (hd : 0 < d) :
    (a : Rat) / b ≤ c / d ↔ a * d ≤ c * b := by
  rw [div_le_div_iff₀ (Nat.cast_pos.2 hb) (Nat.cast_pos.2 hd)]
  exact_mod_cast Iff.rfl

theorem abs_eq_natAbs_div (q : Rat) : |q| = q.num.natAbs / q.den := by
  rw [Rat.abs_def, Rat.divInt_eq_div]
  simp

theorem abs_value (x : Numeral) :
    |x.value| = (x.coefficient * 10 ^ x.exponent.toNat : Nat) /
        (10 ^ (-x.exponent).toNat : Nat) := by
  rw [Numeral.value_eq, Rat.mkRat_eq_div, abs_mul, abs_div]
  cases x.negative <;> simp

theorem Numeral.value_eq_abs (x : Numeral) :
    x.value = (if x.negative then -1 else 1) * |x.value| := by
  rw [abs_value, Numeral.value_eq, Rat.mkRat_eq_div, Int.cast_natCast]

/-! ## The greatest number -/

def greatest : Rat := (units (infiniteRank - 1) : Rat) / unitsPerOne

/-- The intervals of all numbers but the last one end below that number. -/
theorem high_le_greatest {rank : Nat} (h : rank + 1 < infiniteRank) :
    (RoundingInterval.ofRank rank).high ≤ 2 * units (infiniteRank - 1) := by
  have here : units rank ≤ units (infiniteRank - 1) := units_strictMono.monotone (by omega)
  have next : units (rank + 1) ≤ units (infiniteRank - 1) := units_strictMono.monotone (by omega)
  rw [Nat.two_mul]
  exact Nat.add_le_add here next

/-- The shortest decimal of the last one is cut off, not rounded up. -/
theorem shortestOfRank_last : shortestOfRank (infiniteRank - 1) = (17976931348623157, 292) ∧
    17976931348623157 * 10 ^ (292 : Int).toNat * unitsPerOne ≤
      units (infiniteRank - 1) * 10 ^ (-(292 : Int)).toNat := by
  decide +kernel

theorem natAbs_num_le {q : Rat} (h : |q| ≤ greatest + 1) :
    q.num.natAbs * unitsPerOne ≤ (units (infiniteRank - 1) + unitsPerOne) * q.den := by
  refine (div_le_div_nat q.den_pos unitsPerOne_pos).1 ?_
  rw [← abs_eq_natAbs_div, Nat.cast_add, add_div,
    div_self (Nat.cast_ne_zero.2 (Nat.ne_of_gt unitsPerOne_pos))]
  exact h

theorem abs_le_of_contains {rank c : Nat} {e : Int} {negative : Bool}
    (point : (RoundingInterval.ofRank rank).contains (c * (gridScale e).1) (gridScale e).2 = true) :
    |Numeral.value ⟨negative, c, e⟩| ≤ ((RoundingInterval.ofRank rank).high : Rat) /
        (unitsPerOne * 2 : Nat) := by
  have le := RoundingInterval.le_high point
  rw [gridScale_eq] at le
  dsimp only at le
  rw [← Nat.mul_assoc] at le
  rw [abs_value, div_le_div_nat (ten_pow_pos _) half_units_pos]
  exact le

namespace Binary64

/-- What lies at most one beyond the greatest finite number is rounded to a finite number. -/
theorem isFinite_ofRat {q : Rat} (h : |q| ≤ greatest + 1) : (ofRat q).isFinite = true := by
  have room : 2 * (units (infiniteRank - 1) + unitsPerOne) < units (infiniteRank - 1) +
      units infiniteRank := by
    have step := units_infiniteRank.1
    have one : unitsPerOne ≤ 10 ^ 290 * unitsPerOne := Nat.le_mul_of_pos_left _ (ten_pow_pos 290)
    omega
  have rank : nearestRank (q.num.natAbs * unitsPerOne) q.den ≤ infiniteRank - 1 := by
    refine nearestRank_le q.den_pos (.inl ?_)
    have last : infiniteRank - 1 + 1 = infiniteRank := by decide
    rw [last]
    calc 2 * (q.num.natAbs * unitsPerOne) ≤
        2 * ((units (infiniteRank - 1) + unitsPerOne) * q.den) :=
          Nat.mul_le_mul_left 2 (natAbs_num_le h)
      _ = q.den * (2 * (units (infiniteRank - 1) + unitsPerOne)) := by ring
      _ < q.den * (units (infiniteRank - 1) + units infiniteRank) :=
        Nat.mul_lt_mul_of_pos_left room q.den_pos
  exact isFinite_ofRat_iff.2 (Nat.lt_of_le_of_lt rank (by decide))

theorem ofRatio_eq_infinite {num den : Nat} (pos : 0 < den) (h : 2 * 10 ^ 308 * den ≤ num)
    (negative : Bool) :
    ofRatio negative num den = .infinite negative := by
  have beyond : infiniteRank ≤ nearestRank (num * unitsPerOne) den := by
    refine le_nearestRank pos ?_
    calc units infiniteRank * den ≤ 2 * 10 ^ 308 * unitsPerOne * den :=
      Nat.mul_le_mul_right _ units_infiniteRank.2
      _ = 2 * 10 ^ 308 * den * unitsPerOne := Nat.mul_right_comm _ _ _
      _ ≤ num * unitsPerOne := Nat.mul_le_mul_right _ h
  rw [ofRatio_eq, ofRank, dif_neg (Nat.not_lt.2 beyond)]

theorem isFinite_ofRat_eq_false {q : Rat} (h : 2 * 10 ^ 308 ≤ |q|) :
    (ofRat q).isFinite = false := by
  have scaled : 2 * 10 ^ 308 * q.den ≤ q.num.natAbs := by
    rw [abs_eq_natAbs_div, le_div_iff₀ (Nat.cast_pos.2 q.den_pos)] at h
    exact_mod_cast h
  rw [ofRat, ofRatio_eq_infinite q.den_pos scaled]
  rfl

theorem abs_decimalValue_le {x : Binary64} {q : Rat} (h : x.decimalValue? = some q) :
    |q| ≤ greatest := by
  rcases decimalValue_cases h with rfl | ⟨negative, rank, c, e, lt, shortest, -, point, rfl⟩
  · rw [abs_zero]
    exact div_nonneg (by exact_mod_cast Nat.zero_le (units (infiniteRank - 1)))
      (by exact_mod_cast Nat.zero_le unitsPerOne)
  rcases Nat.lt_or_ge (rank + 1) infiniteRank with inner | last
  · refine (abs_le_of_contains point).trans ?_
    rw [greatest]
    refine (div_le_div_nat half_units_pos unitsPerOne_pos).2 ?_
    calc (RoundingInterval.ofRank rank).high * unitsPerOne
        ≤ 2 * units (infiniteRank - 1) * unitsPerOne :=
          Nat.mul_le_mul_right unitsPerOne (high_le_greatest inner)
      _ = units (infiniteRank - 1) * (unitsPerOne * 2) := by
        rw [Nat.mul_comm 2, Nat.mul_assoc, Nat.mul_comm 2]
  · obtain rfl : rank = infiniteRank - 1 := by omega
    obtain ⟨decimal, below⟩ := shortestOfRank_last
    obtain ⟨rfl, rfl⟩ := Prod.mk.inj (shortest.symm.trans decimal)
    rw [abs_value, greatest, div_le_div_nat (ten_pow_pos _) unitsPerOne_pos]
    exact below

theorem den_decimalValue_le {x : Binary64} {q : Rat} (h : x.decimalValue? = some q) :
    q.den ≤ 10 ^ 325 := by
  rcases decimalValue_cases h with rfl | ⟨negative, rank, c, e, lt, -, grid, point, rfl⟩
  · exact ten_pow_pos 325
  · exact (ofRat_of_contains lt grid point (Numeral.value_eq ⟨negative, c, e⟩)).2.1

/-- A decimal and its neighbours at a distance of one have few digits and are rounded to finite
numbers. -/
theorem reportable_near {x : Binary64} {q : Rat} (h : x.decimalValue? = some q) {i : Int}
    (near : |(i : Rat)| ≤ 1) :
    digitCount (q + i).num.natAbs ≤ 4300 ∧ digitCount (q + i).den ≤ 4300 ∧
      (ofRat (q + i)).isFinite = true := by
  have magnitude : |q + i| ≤ greatest + 1 :=
    (abs_add_le q i).trans (add_le_add (abs_decimalValue_le h) near)
  have den : (q + i).den ≤ 10 ^ 325 := by
    rw [Rat.add_intCast_den]
    exact den_decimalValue_le h
  have step := units_infiniteRank.1
  have one : unitsPerOne ≤ 10 ^ 290 * unitsPerOne := Nat.le_mul_of_pos_left _ (ten_pow_pos 290)
  have sum : (units (infiniteRank - 1) + unitsPerOne) * 10 ^ 325 ≤
      2 * units infiniteRank * 10 ^ 325 :=
    Nat.mul_le_mul_right _ (by omega)
  refine ⟨(digitCount_le_iff (by decide)).2 (Nat.lt_of_le_of_lt (Nat.le_trans ?_ sum) few_digits.1),
    (digitCount_le_iff (by decide)).2 (Nat.lt_of_le_of_lt den few_digits.2),
    isFinite_ofRat magnitude⟩
  calc (q + i).num.natAbs ≤ (q + i).num.natAbs * unitsPerOne :=
    Nat.le_mul_of_pos_right _ unitsPerOne_pos
    _ ≤ (units (infiniteRank - 1) + unitsPerOne) * (q + i).den := natAbs_num_le magnitude
    _ ≤ (units (infiniteRank - 1) + unitsPerOne) * 10 ^ 325 := Nat.mul_le_mul_left _ den

end Binary64

end RecordAudit.Number
