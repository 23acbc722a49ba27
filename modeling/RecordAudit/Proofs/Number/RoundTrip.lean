import RecordAudit.Proofs.Number.Decimal

/-!
# Decimals of few digits come back

The numbers that round to a normal number lie so close together that no two decimals of fifteen
digits are among them. The search for the shortest decimal of the nearest number therefore ends at
the decimal that was rounded.
-/

namespace RecordAudit.Number

/-! ## Intervals -/

namespace RoundingInterval

variable {rank den : Nat}

theorem contains_nearestRank (num : Nat) (pos : 0 < den) :
    (ofRank (nearestRank num den)).contains (2 * num) den = true := by
  obtain ⟨from_below, from_above⟩ := units_floorRank (num / den)
  have below : units (floorRank (num / den)) * den ≤ num := (Nat.le_div_iff_mul_le pos).1 from_below
  have above : num < units (floorRank (num / den) + 1) * den :=
    (Nat.div_lt_iff_lt_mul pos).1 from_above
  unfold nearestRank
  dsimp only
  generalize floorRank (num / den) = k at below above
  have previous : units (k - 1) * den ≤ units k * den :=
    Nat.mul_le_mul_right den (units_strictMono.monotone (Nat.sub_le k 1))
  have strict : k ≠ 0 → units (k - 1) * den < units k * den := fun nonzero =>
    Nat.mul_lt_mul_of_pos_right (units_strictMono (by omega)) pos
  have next : units (k + 1) * den < units (k + 1 + 1) * den :=
    Nat.mul_lt_mul_of_pos_right (units_lt_units_succ (k + 1)) pos
  have here : 2 * num < den * (units k + units (k + 1)) ∨
      2 * num = den * (units k + units (k + 1)) ∧ k % 2 = 0 →
          (ofRank k).contains (2 * num) den = true := by
    intro h
    rw [Nat.mul_comm den, Nat.add_mul] at h
    unfold contains ofRank
    split <;> simp [Nat.add_mul] at * <;> omega
  have there : den * (units k + units (k + 1)) < 2 * num ∨ den * (units k + units (k + 1)) =
      2 * num ∧ k % 2 = 1 → (ofRank (k + 1)).contains (2 * num) den = true := by
    intro h
    rw [Nat.mul_comm den, Nat.add_mul] at h
    unfold contains ofRank
    split <;> simp [Nat.add_mul] at * <;> omega
  split
  · next less => exact here (.inl less)
  · split
    · next greater => exact there (.inl greater)
    · next notLess notGreater =>
      have middle : 2 * num = den * (units k + units (k + 1)) :=
        Nat.le_antisymm (Nat.not_lt.1 notGreater) (Nat.not_lt.1 notLess)
      split
      · next even => exact here (.inr ⟨middle, by simpa using even⟩)
      · next odd => exact there (.inr ⟨middle.symm, by simpa using odd⟩)

theorem contains_between {r : RoundingInterval} {x y z : Nat} (hx : r.contains x den = true)
    (hy : r.contains y den = true) (xz : x ≤ z) (zy : z ≤ y) : r.contains z den = true := by
  unfold contains at *
  grind

theorem units_le_pred {e q : Nat} (large : Nat.pow 2 52 ≤ q) (high : q < 2 * Nat.pow 2 52) :
    units (e * Nat.pow 2 52 + q) ≤ units (e * Nat.pow 2 52 + q - 1) + 2 ^ e := by
  rw [units_binade (.inr large) (Nat.le_of_lt high)]
  have pos : 0 < Nat.pow 2 52 := by decide
  by_cases inner : e = 0 ∨ Nat.pow 2 52 ≤ q - 1
  · have pred : e * Nat.pow 2 52 + q - 1 = e * Nat.pow 2 52 + (q - 1) := by omega
    rw [pred, units_binade inner (by omega), ← Nat.succ_mul]
    exact Nat.mul_le_mul_right _ (by omega)
  · -- below the first number of a binade the steps are half as long
    obtain ⟨f, rfl⟩ := Nat.exists_eq_succ_of_ne_zero (fun zero => inner (.inl zero))
    obtain rfl : q = Nat.pow 2 52 := by omega
    have pred : (f + 1) * Nat.pow 2 52 + Nat.pow 2 52 - 1 = f * Nat.pow 2 52 +
        (2 * Nat.pow 2 52 - 1) := by
      rw [Nat.add_mul]
      omega
    rw [pred, units_binade (.inr (by omega)) (by omega)]
    generalize Nat.pow 2 52 = p at *
    have doubled : p * 2 ^ (f + 1) = 2 * p * 2 ^ f := by ring
    rw [doubled, Nat.pow_succ, Nat.sub_mul]
    omega

/-- The interval of a normal number is narrow. -/
theorem width_le (normal : Nat.pow 2 52 ≤ rank) :
    (ofRank rank).high * 2 ^ 51 ≤ (ofRank rank).low * 2 ^ 51 + (ofRank rank).low := by
  obtain ⟨e, q, rfl, low, high⟩ := exists_binade rank
  have size : Nat.pow 2 52 = 2 ^ 51 * 2 := by decide
  have large : Nat.pow 2 52 ≤ q := low.elim (fun zero => by subst zero; omega) id
  have here := units_binade low (Nat.le_of_lt high)
  have next := units_binade (q := q + 1) (low.imp_right Nat.le_succ_of_le) high
  have previous := units_le_pred (e := e) large high
  have first : 2 ^ 51 * 2 * 2 ^ e ≤ q * 2 ^ e := Nat.mul_le_mul_right _ (size ▸ large)
  rw [← Nat.add_assoc, Nat.add_mul, Nat.one_mul] at next
  rw [here] at previous
  unfold ofRank
  dsimp only
  rw [here, next]
  omega

theorem low_le {r : RoundingInterval} {num : Nat} (h : r.contains num den = true) :
    r.low * den ≤ num := by
  unfold contains at h
  grind

/-- Of the multiples of something wider than the interval at most one lies in it. -/
theorem multiple_unique {r : RoundingInterval} {num den m n : Nat}
    (wide : r.high * den < r.low * den + num) (hm : r.contains (m * num) den = true)
    (hn : r.contains (n * num) den = true) : m = n := by
  have below : ∀ a b, r.contains (a * num) den = true →
      r.contains (b * num) den = true → ¬ a < b := by
    intro a b ha hb less
    have step : a * num + num ≤ b * num := by
      rw [← Nat.succ_mul]
      exact Nat.mul_le_mul_right num less
    have from_low := low_le ha
    have to_high := le_high hb
    omega
  have not_less := below m n hm hn
  have not_greater := below n m hn hm
  omega

end RoundingInterval

/-! ## Grids -/

theorem ten_pow_mul_le {x y z : Nat} (h : x + y ≤ z) : 10 ^ x * 10 ^ y ≤ 10 ^ z := by
  rw [← Nat.pow_add]
  exact Nat.pow_le_pow_right (by decide) h

theorem ten_pow_grid {j k : Int} {d : Nat} (h : j = k + d) :
    10 ^ j.toNat * 10 ^ (-k).toNat = 10 ^ d * 10 ^ k.toNat * 10 ^ (-j).toNat := by
  rw [← Nat.pow_add, ← Nat.pow_add, ← Nat.pow_add]
  congr 1
  omega

theorem contains_finer {r : RoundingInterval} {c d : Nat} {j k : Int} (h : j = k + d) :
    r.contains (c * (gridScale j).1) (gridScale j).2 = r.contains (c * 10 ^ d * (gridScale k).1)
      (gridScale k).2 := by
  have positive : ∀ n : Nat, 0 < 10 ^ n := fun n => Nat.pow_pos (by decide)
  have scale := ten_pow_grid h
  rw [gridScale_eq, gridScale_eq]
  dsimp only
  generalize unitsPerOne * 2 = u
  calc r.contains (c * (10 ^ j.toNat * u)) (10 ^ (-j).toNat)
      = r.contains (c * (10 ^ j.toNat * u) * 10 ^ (-k).toNat) (10 ^ (-j).toNat * 10 ^ (-k).toNat) :=
        (RoundingInterval.contains_mul (positive _)).symm
    _ = r.contains (c * 10 ^ d * (10 ^ k.toNat * u) * 10 ^ (-j).toNat)
        (10 ^ (-k).toNat * 10 ^ (-j).toNat) := by
        have point : c * (10 ^ j.toNat * u) * 10 ^ (-k).toNat = c * 10 ^ d * (10 ^ k.toNat * u) *
            10 ^ (-j).toNat := by
          calc c * (10 ^ j.toNat * u) * 10 ^ (-k).toNat =
            c * u * (10 ^ j.toNat * 10 ^ (-k).toNat) := by ring
            _ = c * u * (10 ^ d * 10 ^ k.toNat * 10 ^ (-j).toNat) := by rw [scale]
            _ = c * 10 ^ d * (10 ^ k.toNat * u) * 10 ^ (-j).toNat := by ring
        rw [point, Nat.mul_comm (10 ^ (-j).toNat)]
    _ = r.contains (c * 10 ^ d * (10 ^ k.toNat * u)) (10 ^ (-k).toNat) :=
      RoundingInterval.contains_mul (positive _)

theorem gridScale_pos (e : Int) : 0 < (gridScale e).1 := by
  rw [gridScale_eq]
  exact Nat.mul_pos (Nat.pow_pos (by decide)) (Nat.mul_pos unitsPerOne_pos (by decide))

/-- When a grid has a point in the interval, one of the two points next to a number in the interval
lies in it. -/
theorem gridPoint?_isSome {r : RoundingInterval} {twice m : Nat} {e : Int}
    (inside : r.contains (twice * (gridScale e).2) (gridScale e).2 = true)
    (point : r.contains (m * (gridScale e).1) (gridScale e).2 = true) :
    (gridPoint? r twice e).isSome = true := by
  have positive := gridScale_pos e
  unfold gridPoint?
  generalize gridScale e = scale at *
  obtain ⟨num, den⟩ := scale
  dsimp only at *
  have under : twice * den / num * num ≤ twice * den := Nat.div_mul_le_self _ _
  have beyond : twice * den < (twice * den / num + 1) * num :=
    Nat.lt_mul_of_div_lt (Nat.lt_succ_self _) positive
  generalize twice * den / num = below at *
  have next : r.contains (below * num) den = true ∨ r.contains ((below + 1) * num) den = true := by
    rcases Nat.lt_or_ge below m with above | beneath
    · exact .inr (RoundingInterval.contains_between inside point (Nat.le_of_lt beyond)
        (Nat.mul_le_mul_right num above))
    · exact .inl (RoundingInterval.contains_between point inside
        (Nat.mul_le_mul_right num beneath) under)
  split
  · split
    · rfl
    · split
      · rfl
      · split <;> rfl
  · rfl
  · rfl
  · next outBelow outAbove => simp [outBelow, outAbove] at next

/-- The search ends on the grid of a point in the interval, or on a coarser one. -/
theorem coarsestPoint_reaches {r : RoundingInterval} {twice grids : Nat} {k e : Int}
    (found : (gridPoint? r twice k).isSome = true) (start : k ≤ e) (enough : e < k + grids) :
    k ≤ (coarsestPoint r twice grids e).2 ∧
      r.contains ((coarsestPoint r twice grids e).1 *
        (gridScale (coarsestPoint r twice grids e).2).1)
          (gridScale (coarsestPoint r twice grids e).2).2 = true := by
  induction grids generalizing e with
  | zero => omega
  | succ grids ih =>
    rw [coarsestPoint]
    split
    · next c here => exact ⟨start, gridPoint?_contains here⟩
    · next none =>
      have other : e ≠ k := by
        rintro rfl
        simp [none] at found
      exact ih (by omega) (by push_cast at enough; omega)

/-- Where the search for the shortest decimal starts, and how many grids it may look at. -/
theorem shortestOfRank_eq (rank : Nat) :
    shortestOfRank rank = coarsestPoint (.ofRank rank) (2 * units rank)
      (digitCount (units rank / unitsPerOne) + 325) (digitCount (units rank / unitsPerOne)) := by
  unfold shortestOfRank unitsPerOne
  rfl

/-! ## Numbers of few digits -/

theorem RoundingInterval.contains_self {rank : Nat} (nonzero : rank ≠ 0) {den : Nat}
    (pos : 0 < den) :
    (ofRank rank).contains (2 * units rank * den) den = true := by
  have previous : units (rank - 1) * den < units rank * den :=
    Nat.mul_lt_mul_of_pos_right (units_strictMono (by omega)) pos
  have next : units rank * den < units (rank + 1) * den :=
    Nat.mul_lt_mul_of_pos_right (units_lt_units_succ rank) pos
  unfold contains ofRank
  split <;> simp [Nat.add_mul, Nat.mul_assoc] <;> omega

section Few

variable {a b m : Nat} {k : Int} (pos : 0 < b)
  (decimal : a * 10 ^ (-k).toNat = m * 10 ^ k.toNat * b)
include pos decimal

theorem contains_grid (r : RoundingInterval) :
    r.contains (m * (gridScale k).1) (gridScale k).2 = r.contains (2 * (a * unitsPerOne)) b := by
  have positive : 0 < 10 ^ (-k).toNat := Nat.pow_pos (by decide)
  rw [gridScale_eq]
  dsimp only
  generalize unitsPerOne = u
  have point : m * (10 ^ k.toNat * (u * 2)) * b = 2 * (a * u) * 10 ^ (-k).toNat := by
    calc m * (10 ^ k.toNat * (u * 2)) * b = m * 10 ^ k.toNat * b * (u * 2) := by ring
      _ = a * 10 ^ (-k).toNat * (u * 2) := by rw [decimal]
      _ = 2 * (a * u) * 10 ^ (-k).toNat := by ring
  rw [← RoundingInterval.contains_mul pos, point, Nat.mul_comm _ b,
    RoundingInterval.contains_mul positive]

variable (few : m < 10 ^ 15) (lower : b ≤ a * 10 ^ 290) (upper : a ≤ b * 10 ^ 290)

omit decimal in
include lower in
theorem normal_nearestRank : Nat.pow 2 52 ≤ nearestRank (a * unitsPerOne) b := by
  by_contra small
  have inside := RoundingInterval.le_high
    (RoundingInterval.contains_nearestRank (a * unitsPerOne) pos)
  generalize nearestRank (a * unitsPerOne) b = rank at *
  have here := units_binade (e := 0) (q := rank) (.inl rfl) (by omega)
  have next := units_binade (e := 0) (q := rank + 1) (.inl rfl) (by omega)
  simp only [Nat.zero_mul, Nat.zero_add, Nat.pow_zero, Nat.mul_one] at here next
  have room : Nat.pow 2 52 * 10 ^ 290 ≤ unitsPerOne := by
    have power : Nat.pow 2 52 = 2 ^ 52 := rfl
    rw [power, unitsPerOne_eq, ← pow_mul_pow 2 52 1022 1074 rfl]
    exact Nat.mul_le_mul_left (2 ^ 52) (ten_pow_le_two_pow 290 1022 (by decide))
  have above : Nat.pow 2 52 * b ≤ a * unitsPerOne := by
    calc Nat.pow 2 52 * b ≤ Nat.pow 2 52 * (a * 10 ^ 290) := Nat.mul_le_mul_left _ lower
      _ = a * (Nat.pow 2 52 * 10 ^ 290) := Nat.mul_left_comm _ _ _
      _ ≤ a * unitsPerOne := Nat.mul_le_mul_left _ room
  have below : (units rank + units (rank + 1)) * b < 2 * (Nat.pow 2 52 * b) := by
    rw [here, next, ← Nat.mul_assoc]
    exact Nat.mul_lt_mul_of_pos_right (by omega) pos
  unfold RoundingInterval.ofRank at inside
  dsimp only at inside
  omega

omit decimal in
include upper in
theorem nearestRank_lt_infiniteRank : nearestRank (a * unitsPerOne) b < infiniteRank := by
  have room : 2 * (10 ^ 290 * unitsPerOne) < units (infiniteRank - 1) +
      units (infiniteRank - 1 + 1) := by
    have step := units_infiniteRank.1
    have last : infiniteRank - 1 + 1 = infiniteRank := by decide
    rw [last]
    omega
  have rank : nearestRank (a * unitsPerOne) b ≤ infiniteRank - 1 := by
    refine nearestRank_le pos (.inl ?_)
    calc 2 * (a * unitsPerOne) ≤ 2 * (b * 10 ^ 290 * unitsPerOne) :=
          Nat.mul_le_mul_left 2 (Nat.mul_le_mul_right _ upper)
      _ = b * (2 * (10 ^ 290 * unitsPerOne)) := by rw [Nat.mul_assoc b, Nat.mul_left_comm]
      _ < b * (units (infiniteRank - 1) + units (infiniteRank - 1 + 1)) :=
        Nat.mul_lt_mul_of_pos_left room pos
  exact Nat.lt_of_le_of_lt rank (by decide)

include few lower in
/-- The interval of the nearest number is narrower than the steps of the grid. -/
theorem interval_lt_step :
    (RoundingInterval.ofRank (nearestRank (a * unitsPerOne) b)).high * (gridScale k).2 <
      (RoundingInterval.ofRank (nearestRank (a * unitsPerOne) b)).low * (gridScale k).2 +
        (gridScale k).1 := by
  have inside := RoundingInterval.contains_nearestRank (a * unitsPerOne) pos
  rw [← contains_grid pos decimal] at inside
  have low := RoundingInterval.low_le inside
  have width := RoundingInterval.width_le (normal_nearestRank pos lower)
  have narrow := Nat.mul_le_mul_right (gridScale k).2 width
  have step := gridScale_pos k
  have small : m * (gridScale k).1 ≤ (2 ^ 51 - 1) * (gridScale k).1 :=
    Nat.mul_le_mul_right _ (by omega)
  simp only [Nat.add_mul, Nat.mul_right_comm _ _ (gridScale k).2] at narrow
  omega

include few lower in
/-- The grid is one of those that are searched, from the other end. -/
theorem grid_ge : -325 < k := by
  by_contra far
  obtain ⟨d, hd⟩ : ∃ d, (-k).toNat = 325 + d := ⟨(-k).toNat - 325, by omega⟩
  have whole : k.toNat = 0 := by omega
  rw [hd, whole, Nat.pow_zero, Nat.mul_one] at decimal
  have room : 10 ^ 15 * 10 ^ 290 ≤ 10 ^ (325 + d) := ten_pow_mul_le (by omega)
  have many : m * b < 10 ^ 15 * b := Nat.mul_lt_mul_of_pos_right few pos
  have beyond : 10 ^ 15 * b ≤ a * 10 ^ (325 + d) := by
    calc 10 ^ 15 * b ≤ 10 ^ 15 * (a * 10 ^ 290) := Nat.mul_le_mul_left _ lower
      _ = a * (10 ^ 15 * 10 ^ 290) := Nat.mul_left_comm _ _ _
      _ ≤ a * 10 ^ (325 + d) := Nat.mul_le_mul_left a room
  omega

include lower in
/-- The search begins at a grid that is as coarse. -/
theorem grid_le (positive : 0 < m) :
    k ≤ digitCount (units (nearestRank (a * unitsPerOne) b) / unitsPerOne) := by
  have inside := RoundingInterval.le_high
    (RoundingInterval.contains_nearestRank (a * unitsPerOne) pos)
  have normal := normal_nearestRank pos lower
  generalize nearestRank (a * unitsPerOne) b = rank at *
  by_cases small : k ≤ 0
  · exact Int.le_trans small (Int.natCast_nonneg _)
  obtain ⟨n, rfl⟩ : ∃ n : Nat, k = n + 1 := ⟨(k - 1).toNat, by omega⟩
  rw [show (-((n : Int) + 1)).toNat =
    0 by omega, show ((n : Int) + 1).toNat = n + 1 by omega, Nat.pow_zero, Nat.mul_one] at decimal
  -- the number of the rank is not less than a tenth of the number that was rounded
  have width := RoundingInterval.width_le normal
  have monotone : units (rank - 1) ≤ units rank := units_strictMono.monotone (Nat.sub_le rank 1)
  have high : (RoundingInterval.ofRank rank).high ≤ 4 * units rank := by
    unfold RoundingInterval.ofRank at *
    dsimp only at *
    omega
  have tenth : 10 ^ n * unitsPerOne * b ≤ units rank * b := by
    have share : 20 * (10 ^ n * unitsPerOne * b) ≤ 4 * (units rank * b) := by
      calc 20 * (10 ^ n * unitsPerOne * b) = 2 * (1 * 10 ^ (n + 1) * b * unitsPerOne) := by ring
        _ ≤ 2 * (m * 10 ^ (n + 1) * b * unitsPerOne) := by gcongr; exact positive
        _ = 2 * (a * unitsPerOne) := by rw [decimal]
        _ ≤ 4 * units rank * b := Nat.le_trans inside (Nat.mul_le_mul_right b high)
        _ = 4 * (units rank * b) := Nat.mul_assoc _ _ _
    omega
  have reached : 10 ^ n ≤ units rank / unitsPerOne :=
    (Nat.le_div_iff_mul_le unitsPerOne_pos).2 (Nat.le_of_mul_le_mul_right tenth pos)
  have nonzero : units rank / unitsPerOne ≠ 0 :=
    Nat.ne_of_gt (Nat.lt_of_lt_of_le (Nat.pow_pos (by decide)) reached)
  have digits := (lt_digitCount_iff nonzero).2 reached
  omega

include few lower in
/-- The shortest decimal of the nearest number is the number itself. -/
theorem shortestOfRank_nearestRank (positive : 0 < m) {c : Nat} {j : Int}
    (shortest : shortestOfRank (nearestRank (a * unitsPerOne) b) = (c, j)) :
    c * 10 ^ j.toNat * b = a * 10 ^ (-j).toNat := by
  have inside := RoundingInterval.contains_nearestRank (a * unitsPerOne) pos
  have normal := normal_nearestRank pos lower
  have coarse := grid_le pos decimal lower positive
  have fine := grid_ge pos decimal few lower
  have step := interval_lt_step pos decimal few lower
  generalize nearestRank (a * unitsPerOne) b = rank at *
  rw [← contains_grid pos decimal] at inside
  have nonzero : rank ≠ 0 := by
    rintro rfl
    exact absurd normal (by decide)
  have den : 0 < (gridScale k).2 := by
    rw [gridScale_eq]
    exact Nat.pow_pos (by decide)
  have found := gridPoint?_isSome (RoundingInterval.contains_self nonzero den) inside
  have enough : (digitCount (units rank / unitsPerOne) : Int) <
      k + (digitCount (units rank / unitsPerOne) + 325 : Nat) := by
    push_cast
    omega
  obtain ⟨coarser, point⟩ := coarsestPoint_reaches found coarse enough
  rw [← shortestOfRank_eq, shortest] at coarser point
  dsimp only at coarser point
  obtain ⟨d, hd⟩ : ∃ d : Nat, j = k + d := ⟨(j - k).toNat, by omega⟩
  rw [contains_finer hd] at point
  have same : c * 10 ^ d = m := RoundingInterval.multiple_unique step point inside
  have scale := ten_pow_grid hd
  have cancel : 0 < 10 ^ (-k).toNat := Nat.pow_pos (by decide)
  refine Nat.eq_of_mul_eq_mul_right cancel ?_
  calc c * 10 ^ j.toNat * b * 10 ^ (-k).toNat = c * b * (10 ^ j.toNat * 10 ^ (-k).toNat) := by ring
    _ = c * b * (10 ^ d * 10 ^ k.toNat * 10 ^ (-j).toNat) := by rw [scale]
    _ = c * 10 ^ d * 10 ^ k.toNat * b * 10 ^ (-j).toNat := by ring
    _ = a * 10 ^ (-k).toNat * 10 ^ (-j).toNat := by rw [same, decimal]
    _ = a * 10 ^ (-j).toNat * 10 ^ (-k).toNat := Nat.mul_right_comm _ _ _

include few lower upper in
/-- A number of at most fifteen digits is the decimal of the floating-point number nearest to it. -/
theorem Binary64.decimalValue?_ofRatio (positive : 0 < m) (negative : Bool) :
    (ofRatio negative a b).decimalValue? = some ((if negative then -1 else 1) * mkRat a b) := by
  have finite := nearestRank_lt_infiniteRank pos upper
  have normal := normal_nearestRank pos lower
  have decimals := fun c j => shortestOfRank_nearestRank pos decimal few lower positive
    (c := c) (j := j)
  rw [ofRatio_eq]
  generalize nearestRank (a * unitsPerOne) b = rank at *
  have nonzero : rank ≠ 0 := by
    rintro rfl
    exact absurd normal (by decide)
  rcases shortest : shortestOfRank rank with ⟨c, j⟩
  have same := decimals c j shortest
  rw [ofRank, dif_pos finite, decimalValue?, shortest?, if_neg (by simpa using nonzero), shortest]
  dsimp only
  rw [Option.map_some, Numeral.value_eq]
  have fractions : mkRat (c * 10 ^ j.toNat : Nat) (10 ^ (-j).toNat) = mkRat a b := by
    refine (Rat.mkRat_eq_iff (Nat.ne_of_gt (Nat.pow_pos (by decide))) (Nat.ne_of_gt pos)).2 ?_
    exact_mod_cast same
  exact congrArg (fun q => some ((if negative then -1 else 1) * q)) fractions

end Few

theorem Binary64.isFinite_ofRat_of_lt {q : Rat} (num : q.num.natAbs < 10 ^ 200) :
    (ofRat q).isFinite = true := by
  have grow : ∀ {j k : Nat}, j ≤ k → 10 ^ j ≤ 10 ^ k := Nat.pow_le_pow_right (by decide)
  have upper : q.num.natAbs ≤ q.den * 10 ^ 290 := by
    calc q.num.natAbs ≤ 10 ^ 200 := Nat.le_of_lt num
      _ ≤ 10 ^ 290 := grow (by decide)
      _ ≤ q.den * 10 ^ 290 := Nat.le_mul_of_pos_left _ q.den_pos
  exact isFinite_ofRat_iff.2 (nearestRank_lt_infiniteRank q.den_pos upper)

end RecordAudit.Number
