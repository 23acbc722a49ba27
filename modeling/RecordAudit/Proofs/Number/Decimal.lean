import Mathlib.Algebra.Order.Ring.Nat
import RecordAudit.Proofs.Number.Rounding

/-!
# Decimals of floating-point numbers

The shortest decimal of a finite number rounds to a finite number again, and its value is a fraction
of few digits.
-/

namespace RecordAudit.Number

theorem digitCount_le_iff {n k : Nat} (pos : 0 < k) : digitCount n ≤ k ↔ n < 10 ^ k :=
  Nat.length_toDigits_le_iff (by decide) pos

theorem lt_digitCount_iff {n k : Nat} (nonzero : n ≠ 0) : k < digitCount n ↔ 10 ^ k ≤ n := by
  rcases Nat.eq_zero_or_pos k with rfl | pos
  · exact iff_of_true Nat.length_toDigits_pos (Nat.pos_of_ne_zero nonzero)
  · rw [← Nat.not_le, digitCount_le_iff pos, Nat.not_lt]

theorem gridPoint?_contains {r : RoundingInterval} {twice c : Nat} {e : Int}
    (found : gridPoint? r twice e = some c) :
    r.contains (c * (gridScale e).1) (gridScale e).2 = true := by
  unfold gridPoint? at found
  dsimp only at found
  split at found
  · next below above =>
    split at found
    · obtain rfl := Option.some.inj found
      exact below
    · split at found
      · obtain rfl := Option.some.inj found
        exact above
      · split at found
        · obtain rfl := Option.some.inj found
          exact below
        · obtain rfl := Option.some.inj found
          exact above
  · next below _ =>
    obtain rfl := Option.some.inj found
    exact below
  · next _ above =>
    obtain rfl := Option.some.inj found
    exact above
  · cases found

/-- What the search for the coarsest grid gives lies in the interval, or is zero. -/
theorem coarsestPoint_spec (r : RoundingInterval) (twice grids : Nat) (e : Int) :
    e - grids ≤ (coarsestPoint r twice grids e).2 ∧
      ((coarsestPoint r twice grids e).1 = 0 ∨
        r.contains ((coarsestPoint r twice grids e).1 *
          (gridScale (coarsestPoint r twice grids e).2).1)
            (gridScale (coarsestPoint r twice grids e).2).2 = true) := by
  induction grids generalizing e with
  | zero => exact ⟨by simp [coarsestPoint], .inl rfl⟩
  | succ grids ih =>
    rw [coarsestPoint]
    split
    · next c found => exact ⟨by dsimp only; omega, .inr (gridPoint?_contains found)⟩
    · obtain ⟨grid, point⟩ := ih (e - 1)
      exact ⟨by push_cast; omega, point⟩

/-- So do the coefficient and the exponent of the shortest decimal. -/
theorem shortestOfRank_spec (rank : Nat) :
    -((325 : Nat) : Int) ≤ (shortestOfRank rank).2 ∧
      ((shortestOfRank rank).1 = 0 ∨ (RoundingInterval.ofRank rank).contains
        ((shortestOfRank rank).1 * (gridScale (shortestOfRank rank).2).1)
        (gridScale (shortestOfRank rank).2).2 = true) := by
  obtain ⟨start, e⟩ : ∃ start : Nat, shortestOfRank rank =
      coarsestPoint (.ofRank rank) (2 * units rank) (start + 325) start := ⟨_, rfl⟩
  rw [e]
  obtain ⟨grid, point⟩ := coarsestPoint_spec (.ofRank rank) (2 * units rank) (start + 325) start
  refine ⟨Int.le_trans ?_ grid, point⟩
  push_cast
  omega

theorem RoundingInterval.le_high {r : RoundingInterval} {num den : Nat}
    (h : r.contains num den = true) :
    num ≤ r.high * den := by
  unfold contains at h
  split at h
  · simp only [Bool.and_eq_true, decide_eq_true_eq] at h
    exact h.2
  · simp only [Bool.and_eq_true, decide_eq_true_eq] at h
    exact Nat.le_of_lt h.2

theorem nearestRank_of_contains {rank num den : Nat} (pos : 0 < den)
    (h : (RoundingInterval.ofRank rank).contains (2 * num) den = true) :
    nearestRank num den ≤ rank := by
  unfold RoundingInterval.contains RoundingInterval.ofRank at h
  refine nearestRank_le pos ?_
  rw [Nat.mul_comm den]
  dsimp only at h
  split at h
  · next even =>
    simp only [Bool.and_eq_true, decide_eq_true_eq] at h
    exact .inr ⟨h.2, by simpa using even⟩
  · simp only [Bool.and_eq_true, decide_eq_true_eq] at h
    exact .inl h.2

theorem RoundingInterval.contains_mul {r : RoundingInterval} {num den m : Nat} (pos : 0 < m) :
    r.contains (num * m) (den * m) = r.contains num den := by
  unfold contains
  simp only [← Nat.mul_assoc, Nat.mul_le_mul_right_iff pos, Nat.mul_lt_mul_right pos]

theorem Numeral.value_eq (x : Numeral) :
    x.value = (if x.negative then -1 else 1) *
      mkRat (x.coefficient * 10 ^ x.exponent.toNat : Nat) (10 ^ (-x.exponent).toNat) := by
  have power : tenPow x.exponent =
      mkRat (10 ^ x.exponent.toNat : Nat) (10 ^ (-x.exponent).toNat) := by
    unfold tenPow
    split
    · next h => rw [Int.toNat_of_nonpos (by omega : -x.exponent ≤ 0)]; rfl
    · next h => rw [Int.toNat_of_nonpos (by omega : x.exponent ≤ 0)]; rfl
  have magnitude : (x.coefficient : Rat) * tenPow x.exponent =
      mkRat (x.coefficient * 10 ^ x.exponent.toNat : Nat) (10 ^ (-x.exponent).toNat) := by
    rw [power, Rat.mkRat_eq_div, Rat.mkRat_eq_div]
    push_cast
    ring
  unfold value
  rw [magnitude]
  split <;> ring

theorem exists_lowest_terms {q : Rat} {a b : Nat} (pos : 0 < b) (negative : Bool)
    (h : q = (if negative then -1 else 1) * mkRat a b) :
    ∃ m, 0 < m ∧ a = q.num.natAbs * m ∧ b = q.den * m := by
  obtain ⟨m, nonzero, num, den⟩ : ∃ m : Nat, m ≠ 0 ∧ (a : Int) = (mkRat a b).num * m ∧
      b = (mkRat a b).den * m :=
    Rat.mkRat_num_den (Nat.ne_of_gt pos) (d := b) rfl
  refine ⟨m, Nat.pos_of_ne_zero nonzero, ?_, ?_⟩
  · have abs := congrArg Int.natAbs num
    rw [Int.natAbs_mul, Int.natAbs_natCast, Int.natAbs_natCast] at abs
    cases negative <;> simpa [h] using abs
  · cases negative <;> simpa [h] using den

/-! ## Powers of two and of ten

The exponents are compared, and the powers are never evaluated.
-/

theorem ten_pow_pos (k : Nat) : 0 < 10 ^ k := Nat.pow_pos (by decide)

theorem pow_mul_pow (b m n k : Nat) (h : m + n = k) :
    b ^ m * b ^ n = b ^ k := by rw [← h, Nat.pow_add]

theorem mul_pow_eq (b n k : Nat) (h : n + 1 = k) : b * b ^ n = b ^ k := by rw [← h, Nat.pow_succ']

/-- Three figures are less than ten binary digits. -/
theorem ten_pow_le_two_pow (m n : Nat) (h : 10 * m ≤ 3 * n) : 10 ^ m ≤ 2 ^ n := by
  refine (Nat.pow_le_pow_iff_left (n := 3) (by decide)).1 ?_
  calc (10 ^ m) ^ 3 = (10 ^ 3) ^ m := Nat.pow_right_comm 10 m 3
    _ ≤ (2 ^ 10) ^ m := Nat.pow_le_pow_left (by decide) m
    _ = 2 ^ (10 * m) := (Nat.pow_mul 2 10 m).symm
    _ ≤ 2 ^ (3 * n) := Nat.pow_le_pow_right (by decide) h
    _ = (2 ^ n) ^ 3 := by rw [Nat.mul_comm, Nat.pow_mul]

/-- The other way 93 binary digits are less than 28 figures, which is close enough for the range of
the numbers. -/
theorem two_pow_le_ten_pow (m n : Nat) (h : 28 * m ≤ 93 * n) : 2 ^ m ≤ 10 ^ n := by
  refine (Nat.pow_le_pow_iff_left (n := 93) (by decide)).1 ?_
  calc (2 ^ m) ^ 93 = (2 ^ 93) ^ m := Nat.pow_right_comm 2 m 93
    _ ≤ (10 ^ 28) ^ m := Nat.pow_le_pow_left (by decide) m
    _ = 10 ^ (28 * m) := (Nat.pow_mul 10 28 m).symm
    _ ≤ 10 ^ (93 * n) := Nat.pow_le_pow_right (by decide) h
    _ = (10 ^ n) ^ 93 := by rw [Nat.mul_comm, Nat.pow_mul]

/-! ## The range of the numbers -/

def unitsPerOne : Nat := Nat.pow 2 1074

theorem unitsPerOne_eq : unitsPerOne = 2 ^ 1074 := by
  unfold unitsPerOne
  generalize 1074 = k
  rfl

theorem unitsPerOne_pos : 0 < unitsPerOne := by
  unfold unitsPerOne
  generalize 1074 = k
  exact Nat.pow_pos (by decide)

theorem two_pow_mul_unitsPerOne (m n : Nat) (h : m + 1074 = n) : 2 ^ m * unitsPerOne = 2 ^ n := by
  rw [unitsPerOne_eq, pow_mul_pow 2 m 1074 n h]

/-- Half a unit is more than the step of the grid with 324 figures after the point. -/
theorem half_units_lt : unitsPerOne * 2 < 10 ^ 324 := by
  have twice := two_pow_mul_unitsPerOne 2 1076 rfl
  have bound := two_pow_le_ten_pow 1076 324 (by decide)
  have pos := unitsPerOne_pos
  rw [← twice] at bound
  omega

/-- The number after the greatest one is a power of two, and so is the step to it. -/
theorem units_infiniteRank_eq : units infiniteRank = 2 ^ 1024 * unitsPerOne ∧
    units (infiniteRank - 1) + 2 ^ 971 * unitsPerOne = units infiniteRank := by
  obtain ⟨next, last⟩ := units_binade_end 2045
  have rank : infiniteRank = (2045 + 2) * Nat.pow 2 52 := rfl
  rw [rank, next, two_pow_mul_unitsPerOne 1024 2098 rfl, two_pow_mul_unitsPerOne 971 2045 rfl]
  exact ⟨pow_mul_pow 2 53 2045 2098 rfl, last⟩

/-- The number after the greatest one: the step to it leaves room, and its size is bounded. -/
theorem units_infiniteRank :
    units (infiniteRank - 1) + 2 * (10 ^ 290 * unitsPerOne) < units infiniteRank ∧
      units infiniteRank ≤ 2 * 10 ^ 308 * unitsPerOne := by
  obtain ⟨next, last⟩ := units_infiniteRank_eq
  constructor
  · have step := pow_mul_pow 2 2 969 971 rfl
    have small := ten_pow_le_two_pow 290 969 (by decide)
    have pos := ten_pow_pos 290
    rw [← last, ← step, ← Nat.mul_assoc]
    generalize 10 ^ 290 = t at *
    refine Nat.add_lt_add_left (Nat.mul_lt_mul_of_pos_right ?_ unitsPerOne_pos) _
    omega
  · have size := Nat.mul_le_mul_left 2 (two_pow_le_ten_pow 1023 308 (by decide))
    rw [mul_pow_eq 2 1023 1024 rfl] at size
    rw [next]
    exact Nat.mul_le_mul_right _ size

theorem few_digits : 2 * units infiniteRank * 10 ^ 325 < 10 ^ 4300 ∧ 10 ^ 325 < 10 ^ 4300 := by
  have wider : ∀ m n, m < n → 10 ^ m < 10 ^ n := fun m n => Nat.pow_lt_pow_right (by decide)
  have size := two_pow_le_ten_pow 2099 700 (by decide)
  rw [← mul_pow_eq 2 2098 2099 rfl, ← two_pow_mul_unitsPerOne 1024 2098 rfl,
    ← units_infiniteRank_eq.1] at size
  refine ⟨Nat.lt_of_le_of_lt (Nat.mul_le_mul_right _ size) ?_, wider 325 4300 (by decide)⟩
  rw [pow_mul_pow 10 700 325 1025 rfl]
  exact wider 1025 4300 (by decide)

/-! ## Decimals of finite numbers -/

theorem gridScale_eq (e : Int) :
    gridScale e = (10 ^ e.toNat * (unitsPerOne * 2), 10 ^ (-e).toNat) := by
  have halves : Nat.pow 2 (1074 + 1) = unitsPerOne * 2 := by
    unfold unitsPerOne
    generalize 1074 = k
    rfl
  unfold gridScale
  rw [show 1075 = 1074 + 1 from rfl, halves]
  generalize unitsPerOne * 2 = u
  split
  · next h =>
    rw [Int.toNat_of_nonpos (by omega : -e ≤ 0)]
    rfl
  · next h =>
    rw [Int.toNat_of_nonpos (by omega : e ≤ 0), Nat.pow_zero, Nat.one_mul]
    rfl

theorem high_le {rank : Nat} (h : rank < infiniteRank) :
    (RoundingInterval.ofRank rank).high ≤ 2 * units infiniteRank := by
  rw [Nat.two_mul]
  exact Nat.add_le_add (Nat.le_of_lt (units_strictMono h))
    (units_strictMono.monotone (Nat.succ_le_of_lt h))

namespace Binary64

theorem ofRatio_eq (negative : Bool) (num den : Nat) :
    ofRatio negative num den = ofRank negative (nearestRank (num * unitsPerOne) den) := by
  unfold unitsPerOne
  rfl

theorem isFinite_ofRat_iff {q : Rat} :
    (ofRat q).isFinite = true ↔ nearestRank (q.num.natAbs * unitsPerOne) q.den < infiniteRank := by
  rw [ofRat, ofRatio_eq, ofRank]
  split
  · next lt => exact ⟨fun _ => lt, fun _ => rfl⟩
  · next notLt => exact ⟨nofun, fun lt => absurd lt notLt⟩

/-- A numeral in the interval of a rank is rounded to a finite number, and its fraction is
bounded. -/
theorem ofRat_of_contains {rank c k : Nat} {e : Int} {q : Rat} {negative : Bool}
    (lt : rank < infiniteRank) (grid : -(k : Int) ≤ e)
    (point : (RoundingInterval.ofRank rank).contains (c * (gridScale e).1) (gridScale e).2)
    (value : q = (if negative then -1 else 1) * mkRat (c * 10 ^ e.toNat : Nat) (10 ^ (-e).toNat)) :
    q.num.natAbs ≤ 2 * units infiniteRank * 10 ^ k ∧ q.den ≤ 10 ^ k ∧
      (Binary64.ofRat q).isFinite = true := by
  have scale : 10 ^ (-e).toNat ≤ 10 ^ k := Nat.pow_le_pow_right (by decide) (by omega)
  obtain ⟨m, pos, num, den⟩ := exists_lowest_terms (Nat.pow_pos (by decide)) negative value
  rw [gridScale_eq, ← Nat.mul_assoc] at point
  have two_units_pos : 0 < unitsPerOne * 2 := Nat.mul_pos unitsPerOne_pos (by decide)
  refine ⟨?_, ?_, ?_⟩
  · calc q.num.natAbs ≤ q.num.natAbs * m := Nat.le_mul_of_pos_right _ pos
      _ = c * 10 ^ e.toNat := num.symm
      _ ≤ c * 10 ^ e.toNat * (unitsPerOne * 2) := Nat.le_mul_of_pos_right _ two_units_pos
      _ ≤ (RoundingInterval.ofRank rank).high * 10 ^ (-e).toNat := RoundingInterval.le_high point
      _ ≤ 2 * units infiniteRank * 10 ^ k := Nat.mul_le_mul (high_le lt) scale
  · calc q.den ≤ q.den * m := Nat.le_mul_of_pos_right _ pos
      _ ≤ 10 ^ k := den ▸ scale
  · have twice : c * 10 ^ e.toNat * (unitsPerOne * 2) = 2 * (q.num.natAbs * unitsPerOne) * m := by
      rw [num]
      ring
    rw [twice, den, RoundingInterval.contains_mul pos] at point
    exact isFinite_ofRat_iff.2 (Nat.lt_of_le_of_lt (nearestRank_of_contains q.den_pos point) lt)

theorem decimalValue?_zero (negative : Bool) : (Binary64.zero negative).decimalValue? = some 0 := by
  have digits : (Binary64.zero negative).shortest? = some ⟨negative, 0, 0⟩ := rfl
  rw [decimalValue?, digits, Option.map_some, Numeral.value_eq]
  simp

theorem decimalValue_cases {x : Binary64} {q : Rat} (h : x.decimalValue? = some q) :
    q = 0 ∨ ∃ negative rank c e, rank < infiniteRank ∧ shortestOfRank rank = (c, e) ∧
      -((325 : Nat) : Int) ≤ e ∧
      (RoundingInterval.ofRank rank).contains (c * (gridScale e).1) (gridScale e).2 = true ∧
      q = Numeral.value ⟨negative, c, e⟩ := by
  have value_zero : ∀ negative e, Numeral.value ⟨negative, 0, e⟩ = 0 := fun negative e => by
    rw [Numeral.value_eq]
    simp
  cases x with
  | infinite negative | nan => cases h
  | finite negative rank lt =>
    rw [decimalValue?, shortest?] at h
    split at h
    · obtain rfl := Option.some.inj h
      exact .inl (value_zero _ _)
    rcases shortest : shortestOfRank rank with ⟨c, e⟩
    rw [shortest] at h
    obtain rfl := Option.some.inj h
    obtain ⟨grid, none_found | point⟩ := shortest ▸ shortestOfRank_spec rank
    · dsimp only at none_found
      rw [none_found]
      exact .inl (value_zero _ _)
    · exact .inr ⟨negative, rank, c, e, lt, shortest, grid, point, rfl⟩

/-- The value of the shortest numeral of a finite number is a fraction of few digits, and is rounded
to a finite number. -/
theorem exists_decimalValue {x : Binary64} (h : x.isFinite = true) :
    ∃ q, x.decimalValue? = some q ∧ digitCount q.num.natAbs ≤ 4300 ∧ digitCount q.den ≤ 4300 ∧
      (Binary64.ofRat q).isFinite = true := by
  obtain ⟨q, found⟩ : ∃ q, x.decimalValue? = some q := by
    cases x with
    | infinite negative | nan => cases h
    | finite negative rank lt =>
      rcases shortest : shortestOfRank rank with ⟨c, e⟩
      rw [decimalValue?, shortest?, shortest]
      split <;> exact ⟨_, rfl⟩
  have zero_finite : (Binary64.ofRat 0).isFinite = true := by
    have rank : nearestRank 0 1 = 0 := rfl
    unfold ofRat ofRatio
    generalize Nat.pow 2 1074 = u
    rw [Rat.num_zero, Int.natAbs_zero, Nat.zero_mul, Rat.den_zero, rank]
    rfl
  refine ⟨q, found, ?_⟩
  rcases decimalValue_cases found with rfl | ⟨negative, rank, c, e, lt, -, grid, point, rfl⟩
  · exact ⟨by decide, by decide, zero_finite⟩
  · obtain ⟨num, den, finite⟩ := ofRat_of_contains lt grid point (Numeral.value_eq ⟨negative, c, e⟩)
    refine ⟨(digitCount_le_iff (by decide)).2 ?_, (digitCount_le_iff (by decide)).2 ?_, finite⟩
    · exact Nat.lt_of_le_of_lt num few_digits.1
    · exact Nat.lt_of_le_of_lt den few_digits.2

end Binary64

end RecordAudit.Number
