import Mathlib.Order.Monotone.Basic
import Mathlib.Tactic.Ring
import RecordAudit.Number.Shortest

/-!
# Rounding stays between the midpoints

Ranks count the numbers upwards. A number that does not lie beyond the midpoint after a rank is
rounded to that rank at most, and every number lies in the interval of the rank that it is rounded
to.
-/

namespace RecordAudit.Number

/-! ## Binades -/

/-- Within a binade the numbers of the ranks go up in equal steps, up to the first number of the
next binade. -/
theorem units_binade {e q : Nat} (low : e = 0 ∨ Nat.pow 2 52 ≤ q) (high : q ≤ 2 * Nat.pow 2 52) :
    units (e * Nat.pow 2 52 + q) = q * 2 ^ e := by
  unfold units
  have pos : 0 < Nat.pow 2 52 := by decide
  generalize Nat.pow 2 52 = p at *
  dsimp only
  have place : (e * p + q) / p = e + q / p := by
    rw [Nat.add_comm, Nat.add_mul_div_right _ _ pos, Nat.add_comm]
  rw [place]
  rcases Nat.lt_or_eq_of_le high with below | rfl
  · rcases Nat.lt_or_ge q p with small | large
    · obtain rfl : e = 0 := low.resolve_right (Nat.not_le.2 small)
      simp [Nat.div_eq_of_lt small]
    · have one : q / p = 1 := Nat.div_eq_of_lt_le (by omega) (by omega)
      simp [one]
  · have next : e + 2 * p / p - 1 = e + 1 := by
      rw [Nat.mul_div_cancel 2 pos]
      omega
    have rest : e * p + 2 * p - (e + 1) * p = p := by
      rw [Nat.add_mul]
      omega
    rw [next, rest]
    change p * 2 ^ (e + 1) = _
    ring

theorem units_binade_end (e : Nat) :
    units ((e + 2) * Nat.pow 2 52) = 2 ^ 53 * 2 ^ e ∧
      units ((e + 2) * Nat.pow 2 52 - 1) + 2 ^ e = 2 ^ 53 * 2 ^ e := by
  have last : (e + 2) * Nat.pow 2 52 - 1 = e * Nat.pow 2 52 + (2 * Nat.pow 2 52 - 1) := by
    rw [Nat.add_mul, Nat.add_sub_assoc (by decide)]
  constructor
  · rw [Nat.add_mul, units_binade (.inr (by decide)) (Nat.le_refl _)]
    rfl
  · rw [last, units_binade (.inr (by decide)) (by decide), ← Nat.succ_mul]
    rfl

theorem exists_binade (rank : Nat) :
    ∃ e q, rank = e * Nat.pow 2 52 + q ∧ (e = 0 ∨ Nat.pow 2 52 ≤ q) ∧ q < 2 * Nat.pow 2 52 := by
  have pos : 0 < Nat.pow 2 52 := by decide
  generalize Nat.pow 2 52 = p at *
  have split := Nat.div_add_mod rank p
  have rest := Nat.mod_lt rank pos
  rcases place : rank / p with _ | e
  · rw [place, Nat.mul_zero] at split
    exact ⟨0, rank, by omega, .inl rfl, by omega⟩
  · rw [place, Nat.mul_comm, Nat.add_mul] at split
    exact ⟨e, p + rank % p, by omega, .inr (by omega), by omega⟩

theorem units_lt_units_succ (k : Nat) : units k < units (k + 1) := by
  obtain ⟨e, q, rfl, low, high⟩ := exists_binade k
  have next := units_binade (q := q + 1) (low.imp_right Nat.le_succ_of_le) high
  rw [← Nat.add_assoc] at next
  rw [units_binade low (Nat.le_of_lt high), next]
  exact Nat.mul_lt_mul_of_pos_right (Nat.lt_succ_self q) (Nat.pow_pos (by decide))

theorem units_strictMono : StrictMono units := strictMono_nat_of_lt_succ units_lt_units_succ

/-! ## Rounding -/

/-- The greatest rank below a number of units, by its binade and its place there. -/
theorem exists_floorRank (u : Nat) :
    ∃ e q, floorRank u = e * Nat.pow 2 52 + q ∧ (e = 0 ∨ Nat.pow 2 52 ≤ q) ∧ q < 2 * Nat.pow 2 52 ∧
      q * 2 ^ e ≤ u ∧ u < (q + 1) * 2 ^ e := by
  obtain ⟨e, he⟩ : ∃ e, e = Nat.log2 u - 52 := ⟨_, rfl⟩
  have power : 0 < 2 ^ e := Nat.pow_pos (by decide)
  refine ⟨e, u / 2 ^ e, by rw [he]; rfl, ?_, ?_, Nat.div_mul_le_self _ _,
    Nat.lt_mul_of_div_lt (Nat.lt_succ_self _) power⟩
  · rcases Nat.eq_zero_or_pos e with zero | large
    · exact .inl zero
    · have nonzero : u ≠ 0 := by
        rintro rfl
        simp at he
        omega
      refine .inr ((Nat.le_div_iff_mul_le power).2 ?_)
      calc Nat.pow 2 52 * 2 ^ e = 2 ^ (52 + e) := (Nat.pow_add 2 52 e).symm
        _ = 2 ^ Nat.log2 u := by rw [show 52 + e = Nat.log2 u by omega]
        _ ≤ u := Nat.log2_self_le nonzero
  · refine (Nat.div_lt_iff_lt_mul power).2 ?_
    calc u < 2 ^ (Nat.log2 u + 1) := Nat.lt_log2_self
      _ ≤ 2 ^ (53 + e) := Nat.pow_le_pow_right (by decide) (by omega)
      _ = 2 * Nat.pow 2 52 * 2 ^ e := Nat.pow_add 2 53 e

/-- So a number of units lies between the number of that rank and the next one. -/
theorem units_floorRank (u : Nat) : units (floorRank u) ≤ u ∧ u < units (floorRank u + 1) := by
  obtain ⟨e, q, rank, low, high, from_below, from_above⟩ := exists_floorRank u
  have here := units_binade low (Nat.le_of_lt high)
  have next := units_binade (e := e) (q := q + 1) (low.imp_right Nat.le_succ_of_le) high
  rw [← Nat.add_assoc] at next
  rw [rank, here, next]
  exact ⟨from_below, from_above⟩

/-- A number that does not lie beyond the midpoint after a rank is rounded to that rank at most; the
midpoint itself is so when the rank is even. -/
theorem nearestRank_le {num den r : Nat} (pos : 0 < den)
    (h : 2 * num < den * (units r + units (r + 1)) ∨
      2 * num ≤ den * (units r + units (r + 1)) ∧ r % 2 = 0) : nearestRank num den ≤ r := by
  have step : den * units r < den * units (r + 1) :=
    Nat.mul_lt_mul_of_pos_left (units_lt_units_succ r) pos
  have floor_le : floorRank (num / den) ≤ r := by
    by_contra beyond
    have from_below : den * units (r + 1) ≤ num := by
      calc den * units (r + 1) ≤ den * units (floorRank (num / den)) :=
            Nat.mul_le_mul_left den (units_strictMono.monotone (Nat.lt_of_not_le beyond))
        _ ≤ den * (num / den) := Nat.mul_le_mul_left den ((units_floorRank _).1)
        _ ≤ num := Nat.mul_div_le num den
    rw [Nat.mul_add] at h
    omega
  unfold nearestRank
  dsimp only
  rcases Nat.lt_or_eq_of_le floor_le with below | same
  · split
    · exact floor_le
    · split
      · exact below
      · split
        · exact floor_le
        · exact below
  · rw [same]
    rcases h with strict | ⟨le, even⟩
    · rw [if_pos strict]
    · rcases Nat.lt_or_eq_of_le le with strict | middle
      · rw [if_pos strict]
      · rw [middle]
        simp [even]

theorem le_nearestRank {num den r : Nat} (pos : 0 < den) (h : units r * den ≤ num) :
    r ≤ nearestRank num den := by
  have floor_ge : r ≤ floorRank (num / den) := by
    refine Nat.le_of_lt_succ (units_strictMono.lt_iff_lt.1 ?_)
    exact Nat.lt_of_le_of_lt ((Nat.le_div_iff_mul_le pos).2 h) (units_floorRank _).2
  refine Nat.le_trans floor_ge ?_
  unfold nearestRank
  dsimp only
  split
  · exact Nat.le_refl _
  · split
    · exact Nat.le_succ _
    · split
      · exact Nat.le_refl _
      · exact Nat.le_succ _

end RecordAudit.Number
