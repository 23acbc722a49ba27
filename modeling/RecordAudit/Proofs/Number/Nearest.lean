import Mathlib.Tactic.Linarith
import Mathlib.Tactic.NormNum
import RecordAudit.Proofs.Number.Significant

/-!
# The nearest number

A numeral is rounded to the finite number nearest to it, of two that are equally near to the even
one, unless it lies at the middle between the greatest finite number and the next power of two, or
beyond: then it is infinite. Rounding once keeps the order against every finite number.

## Main definitions

* `Binary64.IsNearest`: a finite number is nearest to a rational number.
* `overflow`: the least magnitude that is rounded to infinity.
-/

namespace RecordAudit.Number

/-! ## Magnitudes -/

def magnitude (rank : Nat) : Rat := (units rank : Rat) / unitsPerOne

theorem unitsPerOne_cast_pos : (0 : Rat) < unitsPerOne := Nat.cast_pos.2 unitsPerOne_pos

theorem magnitude_strictMono : StrictMono magnitude := fun _ _ less =>
  div_lt_div_of_pos_right (Nat.cast_lt.2 (units_strictMono less)) unitsPerOne_cast_pos

theorem magnitude_nonneg (rank : Nat) : 0 ≤ magnitude rank :=
  div_nonneg (Nat.cast_nonneg _) unitsPerOne_cast_pos.le

@[simp] theorem magnitude_zero : magnitude 0 = 0 := by
  have none : units 0 = 0 := rfl
  rw [magnitude, none, Nat.cast_zero, zero_div]

theorem magnitude_eq_zero_iff {rank : Nat} : magnitude rank = 0 ↔ rank = 0 := by
  rw [← magnitude_zero, magnitude_strictMono.injective.eq_iff]

/-- The least magnitude that is rounded to infinity: the middle between the greatest finite number
and the next power of two. -/
def overflow : Rat := 2 ^ 1024 - 2 ^ 970

theorem two_mul_overflow :
    2 * overflow = magnitude (infiniteRank - 1) + magnitude infiniteRank := by
  have middle : units (infiniteRank - 1) + units infiniteRank + 2 ^ 971 * unitsPerOne =
      2 ^ 1025 * unitsPerOne := by
    obtain ⟨next, last⟩ := units_infiniteRank_eq
    rw [← mul_pow_eq 2 1024 1025 rfl, Nat.mul_assoc, ← next]
    omega
  have cast : ∀ m n : Nat, units (infiniteRank - 1) + units infiniteRank + 2 ^ m * unitsPerOne =
      2 ^ n * unitsPerOne → (units (infiniteRank - 1) : Rat) + units infiniteRank +
          2 ^ m * unitsPerOne = 2 ^ n * unitsPerOne :=
    fun m n h => by exact_mod_cast congrArg (Nat.cast (R := Rat)) h
  have sum := cast 971 1025 middle
  have low : (2 : Rat) ^ 971 = 2 ^ 970 * 2 := pow_succ _ _
  have high : (2 : Rat) ^ 1025 = 2 ^ 1024 * 2 := pow_succ _ _
  rw [low, high] at sum
  rw [magnitude, magnitude, ← add_div, eq_div_iff unitsPerOne_cast_pos.ne', overflow]
  generalize (2 : Rat) ^ 1024 = high at *
  generalize (2 : Rat) ^ 970 = low at *
  linarith

namespace Binary64

theorem toRat?_finite (negative : Bool) (rank : Nat) (lt : rank < infiniteRank) :
    (finite negative rank lt).toRat? = some ((if negative then -1 else 1) * magnitude rank) := by
  have unfolded : (finite negative rank lt).toRat? =
      some (if negative then -mkRat (units rank) unitsPerOne else mkRat (units rank)
          unitsPerOne) := by
    unfold unitsPerOne
    rfl
  rw [unfolded, Rat.mkRat_eq_div, Int.cast_natCast, ← magnitude]
  generalize magnitude rank = v
  cases negative <;> simp

def isEven : Binary64 → Bool
  | .finite _ rank _ => rank % 2 == 0
  | _ => false

/-- The number is finite, and no finite number is nearer to the rational one. Where another one is
as near, the number is the even one of the two. -/
def IsNearest (x : Binary64) (q : Rat) : Prop :=
  ∃ v, x.toRat? = some v ∧ ∀ (y : Binary64) (w : Rat), y.toRat? = some w →
    |v - q| < |w - q| ∨ |v - q| = |w - q| ∧ (w = v ∨ x.isEven = true)

end Binary64

/-! ## Midpoints -/

theorem midpoint_eq (i j : Nat) :
    magnitude i + magnitude j = (units i + units j : Nat) / unitsPerOne := by
  unfold magnitude
  push_cast
  ring

theorem two_mul_div_eq (num den : Nat) : 2 * ((num : Rat) / den) = (2 * num : Nat) / den := by
  push_cast
  ring

section Midpoints

variable {num den : Nat} (pos : 0 < den)
include pos

theorem midpoint_le_iff (i j : Nat) :
    magnitude i + magnitude j ≤ 2 * ((num : Rat) / den) ↔
      (units i + units j) * den ≤ 2 * (num * unitsPerOne) := by
  rw [two_mul_div_eq, midpoint_eq, div_le_div_nat unitsPerOne_pos pos, Nat.mul_assoc]

theorem le_midpoint_iff (i j : Nat) :
    2 * ((num : Rat) / den) ≤ magnitude i + magnitude j ↔
      2 * (num * unitsPerOne) ≤ (units i + units j) * den := by
  rw [two_mul_div_eq, midpoint_eq, div_le_div_nat pos unitsPerOne_pos, Nat.mul_assoc]

variable {k : Nat} (inside : (RoundingInterval.ofRank k).contains (2 * (num * unitsPerOne)) den =
  true)
include inside

/-- A fraction in the interval of a rank lies between the midpoints around the rank's number. It is
a midpoint only when the rank is even. -/
theorem between_midpoints :
    magnitude (k - 1) + magnitude k ≤ 2 * ((num : Rat) / den) ∧
      2 * ((num : Rat) / den) ≤ magnitude k + magnitude (k + 1) ∧
      (k % 2 = 0 ∨ magnitude (k - 1) + magnitude k < 2 * ((num : Rat) / den) ∧
        2 * ((num : Rat) / den) < magnitude k + magnitude (k + 1)) := by
  simp only [← not_le, midpoint_le_iff pos, le_midpoint_iff pos]
  unfold RoundingInterval.contains RoundingInterval.ofRank at inside
  dsimp only at inside
  split at inside
  · next even =>
    simp only [Bool.and_eq_true, decide_eq_true_eq, beq_iff_eq] at inside even
    exact ⟨inside.1, inside.2, .inl even⟩
  · simp only [Bool.and_eq_true, decide_eq_true_eq] at inside
    exact ⟨inside.1.le, inside.2.le, .inr ⟨inside.1.not_ge, inside.2.not_ge⟩⟩

/-- No other magnitude is as near, unless the rank is even. -/
theorem nearer_of_contains {j : Nat} (other : j ≠ k) :
    |magnitude k - num / den| < |magnitude j - num / den| ∨
      |magnitude k - num / den| = |magnitude j - num / den| ∧ k % 2 = 0 := by
  obtain ⟨low, high, ends⟩ := between_midpoints pos inside
  generalize (num : Rat) / den = q at *
  rcases Nat.lt_or_gt_of_ne other with less | greater
  · have below : magnitude j ≤ magnitude (k - 1) := magnitude_strictMono.monotone (by omega)
    have step : magnitude j < magnitude k := magnitude_strictMono less
    have down : |magnitude j - q| = q - magnitude j := by
      rw [abs_of_nonpos (by linarith)]
      ring
    rw [down, abs_lt]
    rcases ends with even | ⟨strict, -⟩
    · rcases (add_le_add_left below (magnitude k)).trans low |>.lt_or_eq with strict | middle
      · exact .inl ⟨by linarith, by linarith⟩
      · refine .inr ⟨?_, even⟩
        rw [abs_of_nonneg (by linarith)]
        linarith
    · exact .inl ⟨by linarith, by linarith⟩
  · have above : magnitude (k + 1) ≤ magnitude j := magnitude_strictMono.monotone greater
    have step : magnitude k < magnitude j := magnitude_strictMono greater
    have up : |magnitude j - q| = magnitude j - q := abs_of_nonneg (by linarith)
    rw [up, abs_lt]
    rcases ends with even | ⟨-, strict⟩
    · rcases high.trans (add_le_add_right above (magnitude k)) |>.lt_or_eq with strict | middle
      · exact .inl ⟨by linarith, by linarith⟩
      · refine .inr ⟨?_, even⟩
        rw [abs_of_nonpos (by linarith)]
        linarith
    · exact .inl ⟨by linarith, by linarith⟩

/-- The number of the rank is the nearest one of its sign, and those of the other sign are no
nearer. -/
theorem Binary64.isNearest_of_contains (negative : Bool) (lt : k < infiniteRank) :
    (finite negative k lt).IsNearest ((if negative then -1 else 1) * (num / den)) := by
  have low := (between_midpoints pos inside).1
  have nearer := fun j => nearer_of_contains pos inside (j := j)
  have nonneg : (0 : Rat) ≤ num / den := div_nonneg (Nat.cast_nonneg _) (Nat.cast_nonneg _)
  generalize (num : Rat) / den = q at *
  -- a sign on both sides makes no difference to a distance
  have unit : |if negative then (-1 : Rat) else 1| = 1 := by cases negative <;> simp
  have same : ∀ j, |(if negative then -1 else 1) * magnitude j - (if negative then -1 else 1) * q| =
      |magnitude j - q| := fun j => by rw [← mul_sub, abs_mul, unit, one_mul]
  have opposite : ∀ j, |(if negative then 1 else -1) * magnitude j - (if negative then -1 else 1) *
      q| = magnitude j + q := fun j => by
    have turned : (if negative then (1 : Rat) else -1) = -if negative then -1 else 1 := by
      cases negative <;> simp
    rw [turned, neg_mul, ← neg_add', ← mul_add, abs_neg, abs_mul, unit, one_mul,
      abs_of_nonneg (add_nonneg (magnitude_nonneg j) nonneg)]
  refine ⟨_, toRat?_finite negative k lt, fun y w value => ?_⟩
  cases y with
  | infinite | nan => cases value
  | finite negative' j lt' =>
    obtain rfl := Option.some.inj ((toRat?_finite negative' j lt').symm.trans value)
    by_cases agree : negative' = negative ∨ j = 0
    · have signed : (if negative' then -1 else 1) * magnitude j = (if negative then -1 else 1) *
          magnitude j := by
        rcases agree with rfl | rfl
        · rfl
        · simp
      rw [signed, same, same]
      by_cases equal : j = k
      · exact .inr ⟨by rw [equal], .inl (by rw [equal])⟩
      · rcases nearer j equal with strict | ⟨equal_distance, even⟩
        · exact .inl strict
        · exact .inr ⟨equal_distance, .inr (by simpa [isEven] using even)⟩
    · -- the number and the fraction stand on one side of zero, the other number on the other
      obtain ⟨other, nonzero⟩ := not_or.1 agree
      have flipped : (if negative' then (-1 : Rat) else 1) = if negative then 1 else -1 := by
        cases negative <;> cases negative' <;> simp_all
      have away : 0 < magnitude j := by
        rw [← magnitude_zero]
        exact magnitude_strictMono (Nat.pos_of_ne_zero nonzero)
      have previous := magnitude_nonneg (k - 1)
      have here := magnitude_nonneg k
      rw [flipped, same, opposite]
      exact .inl (abs_lt.2 ⟨by linarith, by linarith⟩)

end Midpoints

/-! ## Rounding -/

theorem nearestRank_lt_infiniteRank_iff {num den : Nat} (pos : 0 < den) :
    nearestRank (num * unitsPerOne) den < infiniteRank ↔ (num : Rat) / den < overflow := by
  have last : infiniteRank - 1 + 1 = infiniteRank := by decide
  have odd : ¬(infiniteRank - 1) % 2 = 0 := by decide
  have bound : (num : Rat) / den < overflow ↔
      2 * ((num : Rat) / den) < magnitude (infiniteRank - 1) + magnitude infiniteRank := by
    rw [← two_mul_overflow]
    constructor <;> intro less <;> linarith
  rw [bound]
  constructor
  · intro less
    obtain ⟨-, high, ends⟩ :=
      between_midpoints pos (RoundingInterval.contains_nearestRank (num * unitsPerOne) pos)
    generalize nearestRank (num * unitsPerOne) den = k at *
    rcases Nat.lt_or_eq_of_le (Nat.le_sub_one_of_lt less) with inner | rfl
    · have here := magnitude_strictMono inner
      have next : magnitude (k + 1) ≤ magnitude infiniteRank := magnitude_strictMono.monotone less
      linarith
    · rcases ends with even | ⟨-, strict⟩
      · exact absurd even odd
      · rwa [last] at strict
  · intro less
    rw [← not_le, midpoint_le_iff pos, not_le, Nat.mul_comm _ den] at less
    have rank : nearestRank (num * unitsPerOne) den ≤ infiniteRank - 1 := by
      refine nearestRank_le pos (.inl ?_)
      rwa [last]
    exact Nat.lt_of_le_of_lt rank (by decide)

theorem nearestRank_mul {num den m : Nat} (pos : 0 < m) :
    nearestRank (num * m) (den * m) = nearestRank num den := by
  have middle : ∀ k, den * m * (units k + units (k + 1)) = den * (units k + units (k + 1)) * m :=
    fun k => Nat.mul_right_comm _ _ _
  unfold nearestRank
  simp only [Nat.mul_div_mul_right _ _ pos, middle, ← Nat.mul_assoc, Nat.mul_lt_mul_right pos]

namespace Binary64

/-- A numeral is rounded to the finite number nearest to what it writes. -/
theorem isNearest_ofNumeral {x : Numeral} (small : |x.value| < overflow) :
    (ofNumeral x).IsNearest x.value := by
  have pos := ten_pow_pos (-x.exponent).toNat
  have finite := (nearestRank_lt_infiniteRank_iff pos).2 (abs_value x ▸ small)
  have inside := RoundingInterval.contains_nearestRank (x.coefficient * 10 ^ x.exponent.toNat *
    unitsPerOne) pos
  rw [ofNumeral_eq, ofRatio_eq, ofRank, dif_pos finite, Numeral.value_eq, Rat.mkRat_eq_div,
    Int.cast_natCast]
  exact isNearest_of_contains pos inside x.negative finite

theorem ofNumeral_eq_infinite {x : Numeral} (large : overflow ≤ |x.value|) :
    ofNumeral x = .infinite x.negative := by
  have pos := ten_pow_pos (-x.exponent).toNat
  have beyond := mt (nearestRank_lt_infiniteRank_iff pos).1 (not_lt.2 (abs_value x ▸ large))
  rw [ofNumeral_eq, ofRatio_eq, ofRank, dif_neg beyond]

theorem ofNumeral_congr {x y : Numeral} (sign : x.negative = y.negative)
    (value : |x.value| = |y.value|) :
    ofNumeral x = ofNumeral y := by
  have left := ten_pow_pos (-x.exponent).toNat
  have right := ten_pow_pos (-y.exponent).toNat
  rw [abs_value, abs_value, div_eq_div_iff (Nat.cast_ne_zero.2 left.ne')
    (Nat.cast_ne_zero.2 right.ne')] at value
  have cross : x.coefficient * 10 ^ x.exponent.toNat * 10 ^ (-y.exponent).toNat =
      y.coefficient * 10 ^ y.exponent.toNat * 10 ^ (-x.exponent).toNat := by exact_mod_cast value
  rw [ofNumeral_eq, ofNumeral_eq, ofRatio_eq, ofRatio_eq, sign, ← nearestRank_mul right,
    Nat.mul_right_comm, cross, Nat.mul_right_comm, Nat.mul_comm (10 ^ (-x.exponent).toNat),
    nearestRank_mul left]

end Binary64

/-! ## Order -/

namespace Binary64

variable {x y : Binary64} {v w : Rat}

theorem abs_lt_overflow (value : x.toRat? = some v) : |v| < overflow := by
  cases x with
  | infinite | nan => cases value
  | finite negative k lt =>
    obtain rfl := Option.some.inj ((toRat?_finite negative k lt).symm.trans value)
    have step : magnitude (infiniteRank - 1) < magnitude infiniteRank :=
      magnitude_strictMono (by decide)
    have here : magnitude k ≤ magnitude (infiniteRank - 1) :=
      magnitude_strictMono.monotone (Nat.le_sub_one_of_lt lt)
    have middle := two_mul_overflow
    have same : |(if negative then -1 else 1) * magnitude k| = magnitude k := by
      rw [abs_mul, abs_of_nonneg (magnitude_nonneg k)]
      cases negative <;> simp
    linarith

theorem le_iff (left : x.toRat? = some v) (right : y.toRat? = some w) : x.le y = true ↔ v ≤ w := by
  cases x with
  | infinite | nan => cases left
  | finite negative j lt =>
    cases y with
    | infinite | nan => cases right
    | finite negative' k lt' =>
      obtain rfl := Option.some.inj ((toRat?_finite negative j lt).symm.trans left)
      obtain rfl := Option.some.inj ((toRat?_finite negative' k lt').symm.trans right)
      have left_nonneg := magnitude_nonneg j
      have right_nonneg := magnitude_nonneg k
      cases negative with
      | false =>
        cases negative' with
        | false => simp [le, compareBy, orderKey?, magnitude_strictMono.le_iff_le]
        | true =>
          -- only zero has both signs
          have keys : (finite false j lt).le (finite true k lt') = true ↔ j = 0 ∧ k = 0 := by
            have least : (j : Int) ≤ -(k : Int) ↔ j = 0 ∧ k = 0 := by omega
            simpa [le, compareBy, orderKey?] using least
          rw [keys, ← magnitude_eq_zero_iff, ← @magnitude_eq_zero_iff k]
          simp only [Bool.false_eq_true, if_false, if_true, one_mul, neg_one_mul]
          constructor
          · rintro ⟨left_zero, right_zero⟩
            rw [left_zero, right_zero, neg_zero]
          · intro values
            exact ⟨by linarith, by linarith⟩
      | true =>
        cases negative' with
        | false =>
          have keys : -(j : Int) ≤ k := by omega
          have values : -magnitude j ≤ magnitude k := by linarith
          simp [le, compareBy, orderKey?, keys, values]
        | true => simp [le, compareBy, orderKey?, magnitude_strictMono.le_iff_le]

/-- The nearest number stays on the side of every finite number where the rational one is. -/
theorem IsNearest.le {q : Rat} (nearest : x.IsNearest q) (value : y.toRat? = some w)
    (below : q ≤ w) :
    x.le y = true := by
  obtain ⟨v, rounded, least⟩ := nearest
  refine (le_iff rounded value).2 ?_
  by_contra beyond
  have farther : |w - q| < |v - q| := by
    rw [abs_of_nonneg (by linarith), abs_of_nonneg (by linarith)]
    linarith
  rcases least y w value with nearer | ⟨equal, -⟩ <;> linarith

theorem IsNearest.ge {q : Rat} (nearest : x.IsNearest q) (value : y.toRat? = some w)
    (above : w ≤ q) :
    y.le x = true := by
  obtain ⟨v, rounded, least⟩ := nearest
  refine (le_iff value rounded).2 ?_
  by_contra beyond
  have farther : |w - q| < |v - q| := by
    rw [abs_of_nonpos (by linarith), abs_of_nonpos (by linarith)]
    linarith
  rcases least y w value with nearer | ⟨equal, -⟩ <;> linarith

theorem IsNearest.isFinite {q : Rat} (nearest : x.IsNearest q) : x.isFinite = true := by
  obtain ⟨v, value, -⟩ := nearest
  cases x with
  | infinite | nan => cases value
  | finite => rfl

theorem IsNearest.zero {negative : Bool} {q : Rat} (nearest : (zero negative).IsNearest q)
    (other : Bool) :
    (Binary64.zero other).IsNearest q := by
  obtain ⟨v, value, least⟩ := nearest
  obtain rfl : v = 0 := by
    rw [Binary64.zero, toRat?_finite] at value
    simpa using value.symm
  refine ⟨0, ?_, least⟩
  rw [Binary64.zero, toRat?_finite]
  simp

theorem between_infinite (value : y.toRat? = some w) :
    (infinite true).le y = true ∧ y.le (infinite false) = true := by
  cases y with
  | infinite | nan => cases value
  | finite negative k lt =>
    simp only [Binary64.le, compareBy, orderKey?, decide_eq_true_eq]
    cases negative <;> simp <;> omega

theorem ofNumeral_le {n : Numeral} (value : y.toRat? = some w) (below : n.value ≤ w) :
    (ofNumeral n).le y = true := by
  rcases lt_or_ge |n.value| overflow with small | large
  · exact (isNearest_ofNumeral small).le value below
  · have bound := abs_lt_overflow value
    have negative : n.negative = true := by
      by_contra positive
      have magnitude := n.value_eq_abs
      rw [if_neg positive, one_mul] at magnitude
      linarith [le_abs_self w]
    rw [ofNumeral_eq_infinite large, negative]
    exact (between_infinite value).1

theorem le_ofNumeral {n : Numeral} (value : y.toRat? = some w) (above : w ≤ n.value) :
    y.le (ofNumeral n) = true := by
  rcases lt_or_ge |n.value| overflow with small | large
  · exact (isNearest_ofNumeral small).ge value above
  · have bound := abs_lt_overflow value
    have positive : n.negative = false := by
      by_contra negative
      have magnitude := n.value_eq_abs
      rw [if_pos (by simpa using negative), neg_one_mul] at magnitude
      linarith [neg_abs_le w]
    rw [ofNumeral_eq_infinite large, positive]
    exact (between_infinite value).2

theorem le_trans {z : Binary64} (first : x.le y = true) (second : y.le z = true) :
    x.le z = true := by
  unfold Binary64.le compareBy at *
  grind

/-- A bound is kept by rounding when the numerals on its other side stay behind a number there. -/
theorem le_ofNumeral_iff {n : Numeral} {z : Binary64} {u : Rat} (bound : y.toRat? = some w)
    (other : z.toRat? = some u) (apart : y.le z = false) (gap : n.value < w → n.value ≤ u) :
    y.le (ofNumeral n) = true ↔ w ≤ n.value := by
  refine ⟨fun above => ?_, le_ofNumeral bound⟩
  by_contra below
  have through := le_trans above (ofNumeral_le other (gap (not_le.1 below)))
  simp [apart] at through

theorem ofNumeral_le_iff {n : Numeral} {z : Binary64} {u : Rat} (bound : y.toRat? = some w)
    (other : z.toRat? = some u) (apart : z.le y = false) (gap : w < n.value → u ≤ n.value) :
    (ofNumeral n).le y = true ↔ n.value ≤ w := by
  refine ⟨fun below => ?_, ofNumeral_le bound⟩
  by_contra above
  have through := le_trans (le_ofNumeral other (gap (not_le.1 above))) below
  simp [apart] at through

end Binary64

end RecordAudit.Number
