import RecordAudit.Proofs.Number.Greatest
import RecordAudit.Proofs.Number.RoundTrip

/-!
# Shortest decimals are rounded back

The steps of the finest grid are shorter than the way from a number down to the end of its interval,
so the search for the shortest decimal always ends in the interval. A decimal in the interval of a
rank is rounded to that rank, so the decimal of a finite number is rounded to the number, except
that the decimal of zero has no sign.
-/

namespace RecordAudit.Number

/-! ## The search ends in the interval -/

/-- The points of the finest grid are less than one half unit apart. -/
theorem finest_step : (gridScale (-324)).1 < (gridScale (-324)).2 := by
  have scale : (-324 : Int).toNat = 0 := rfl
  have figures : (- -324 : Int).toNat = 324 := rfl
  rw [gridScale_eq, scale, figures, Nat.pow_zero, Nat.one_mul]
  exact half_units_lt

section Rank

variable {rank : Nat} (nonzero : rank ≠ 0)
include nonzero

/-- The last point of the finest grid that is not beyond a number lies in the number's interval. -/
theorem exists_finest_point :
    ∃ m, (RoundingInterval.ofRank rank).contains (m * (gridScale (-324)).1) (gridScale (-324)).2 =
      true := by
  have positive := gridScale_pos (-324)
  have narrow := finest_step
  generalize gridScale (-324) = scale at *
  obtain ⟨num, den⟩ := scale
  dsimp only at *
  have under := Nat.div_mul_le_self (2 * units rank * den) num
  have beyond : 2 * units rank * den < (2 * units rank * den / num + 1) * num :=
    Nat.lt_mul_of_div_lt (Nat.lt_succ_self _) positive
  refine ⟨2 * units rank * den / num, ?_⟩
  generalize 2 * units rank * den / num = m at *
  have previous : (units (rank - 1) + 1) * den ≤ units rank * den :=
    Nat.mul_le_mul_right den (units_strictMono (by omega : rank - 1 < rank))
  have next : units rank * den ≤ units (rank + 1) * den :=
    Nat.mul_le_mul_right den (Nat.le_of_lt (units_lt_units_succ rank))
  have wide : units rank * den < units (rank + 1) * den :=
    Nat.mul_lt_mul_of_pos_right (units_lt_units_succ rank) (Nat.zero_lt_of_lt narrow)
  rw [Nat.mul_assoc] at under beyond
  rw [Nat.add_mul] at beyond previous
  have low : (units (rank - 1) + units rank) * den < m * num := by
    rw [Nat.add_mul]
    omega
  have high : m * num < (units rank + units (rank + 1)) * den := by
    rw [Nat.add_mul]
    omega
  unfold RoundingInterval.contains RoundingInterval.ofRank
  split <;> simp [low, high, Nat.le_of_lt]

/-- The shortest decimal of a number lies in the number's interval. -/
theorem shortestOfRank_contains :
    (RoundingInterval.ofRank rank).contains
      ((shortestOfRank rank).1 * (gridScale (shortestOfRank rank).2).1)
        (gridScale (shortestOfRank rank).2).2 = true := by
  obtain ⟨m, point⟩ := exists_finest_point nonzero
  have inside := RoundingInterval.contains_self nonzero (Nat.zero_lt_of_lt finest_step)
  have found := gridPoint?_isSome inside point
  rw [shortestOfRank_eq]
  exact (coarsestPoint_reaches found (by omega) (by push_cast; omega)).2

end Rank

/-! ## Intervals are disjoint -/

theorem RoundingInterval.rank_unique {j k num den : Nat} (pos : 0 < den)
    (hj : (ofRank j).contains num den = true) (hk : (ofRank k).contains num den = true) :
    j = k := by
  have apart : ∀ {j k}, (ofRank j).contains num den = true →
      (ofRank k).contains num den = true → ¬ j < k := by
    intro j k hj hk less
    have high := le_high hj
    have low := low_le hk
    have here : units j * den ≤ units (k - 1) * den :=
      Nat.mul_le_mul_right den (units_strictMono.monotone (by omega))
    have next : units (j + 1) * den ≤ units k * den :=
      Nat.mul_le_mul_right den (units_strictMono.monotone less)
    simp only [ofRank, Nat.add_mul] at high low
    -- only the end of one interval, where the next one begins, is left, and it belongs to the even
    -- one of the two
    have adjacent : k = j + 1 := by
      by_contra far
      have step : units (j + 1) * den < units k * den :=
        Nat.mul_lt_mul_of_pos_right (units_strictMono (by omega)) pos
      omega
    subst adjacent
    rw [Nat.add_sub_cancel] at low
    unfold contains ofRank at hj hk
    simp only [Nat.add_mul, Nat.add_sub_cancel] at hj hk
    split at hj
    · next even =>
      have odd : ¬((j + 1) % 2 == 0) = true := by simp at even ⊢; omega
      rw [if_neg odd] at hk
      simp only [Bool.and_eq_true, decide_eq_true_eq] at hk
      omega
    · simp only [Bool.and_eq_true, decide_eq_true_eq] at hj
      omega
  exact Nat.le_antisymm (Nat.le_of_not_lt (apart hk hj)) (Nat.le_of_not_lt (apart hj hk))

theorem nearestRank_eq_of_contains {rank num den : Nat} (pos : 0 < den)
    (h : (RoundingInterval.ofRank rank).contains (2 * num) den = true) :
    nearestRank num den = rank :=
  RoundingInterval.rank_unique pos (RoundingInterval.contains_nearestRank num pos) h

theorem RoundingInterval.not_contains_zero {rank den : Nat} (nonzero : rank ≠ 0) (pos : 0 < den) :
    (ofRank rank).contains 0 den = false := by
  have positive : units (rank - 1) < units rank := units_strictMono (by omega)
  have low : 0 < (units (rank - 1) + units rank) * den := Nat.mul_pos (by omega) pos
  unfold contains ofRank
  dsimp only
  split <;> simp [Nat.not_le.2 low]

/-! ## Rounding the shortest decimal -/

namespace Binary64

/-- A numeral in the interval of a positive rank is rounded to the number of the rank, with the
numeral's sign. -/
theorem ofRat_value_of_contains {rank : Nat} {x : Numeral} (nonzero : rank ≠ 0)
    (point : (RoundingInterval.ofRank rank).contains (x.coefficient * (gridScale x.exponent).1)
      (gridScale x.exponent).2 = true) : ofRat x.value = ofRank x.negative rank := by
  have positive := ten_pow_pos (-x.exponent).toNat
  obtain ⟨m, pos, num, den⟩ := exists_lowest_terms positive x.negative x.value_eq
  have coefficient : x.coefficient ≠ 0 := by
    intro zero
    rw [zero, Nat.zero_mul, gridScale_eq, RoundingInterval.not_contains_zero nonzero positive]
      at point
    cases point
  have numerator : x.value.num ≠ 0 := by
    intro zero
    rw [zero, Int.natAbs_zero, Nat.zero_mul] at num
    exact Nat.mul_ne_zero coefficient (ten_pow_pos _).ne' num
  have magnitude : 0 < |x.value| := abs_pos.2 (Rat.num_ne_zero.1 numerator)
  have sign : decide (x.value.num < 0) = x.negative := by
    rw [Bool.eq_iff_iff, decide_eq_true_iff, Rat.num_neg, x.value_eq_abs]
    cases x.negative <;> simp [magnitude, magnitude.le]
  rw [gridScale_eq, ← Nat.mul_assoc, num, den] at point
  have twice : x.value.num.natAbs * m * (unitsPerOne * 2) =
    2 * (x.value.num.natAbs * unitsPerOne) * m := by ring
  rw [twice, RoundingInterval.contains_mul pos] at point
  rw [ofRat, ofRatio_eq, sign, nearestRank_eq_of_contains x.value.den_pos point]

theorem ofRat_zero : ofRat 0 = zero false := by
  have rank : nearestRank 0 1 = 0 := rfl
  rw [ofRat, ofRatio_eq, Rat.num_zero, Int.natAbs_zero, Nat.zero_mul, Rat.den_zero, rank]
  rfl

def unsignedZero (x : Binary64) : Binary64 := if x.isZero then zero false else x

/-- The decimal of a number that is not zero is what its rank's shortest decimal writes, with the
number's sign. -/
theorem decimalValue?_finite {negative : Bool} {rank c : Nat} {e : Int} (lt : rank < infiniteRank)
    (nonzero : rank ≠ 0) (shortest : shortestOfRank rank = (c, e)) :
    (finite negative rank lt).decimalValue? = some (Numeral.value ⟨negative, c, e⟩) := by
  rw [decimalValue?, shortest?, if_neg (by simpa using nonzero), shortest]
  rfl

/-- The shortest decimal of a finite number is rounded to the number, and that of zero to the
positive zero. -/
theorem ofRat_decimalValue {x : Binary64} {q : Rat} (h : x.decimalValue? = some q) :
    ofRat q = x.unsignedZero := by
  cases x with
  | infinite | nan => cases h
  | finite negative rank lt =>
    by_cases isZero : rank = 0
    · subst isZero
      obtain rfl := Option.some.inj (h.symm.trans (decimalValue?_zero negative))
      exact ofRat_zero
    · have nonzero : (finite negative rank lt).isZero = false := by
        simpa [Binary64.isZero] using isZero
      have point := shortestOfRank_contains isZero
      rcases shortest : shortestOfRank rank with ⟨c, e⟩
      rw [shortest] at point
      obtain rfl := Option.some.inj (h.symm.trans (decimalValue?_finite lt isZero shortest))
      rw [ofRat_value_of_contains isZero point, unsignedZero, nonzero, ofRank, dif_pos lt]
      rfl

end Binary64

end RecordAudit.Number
