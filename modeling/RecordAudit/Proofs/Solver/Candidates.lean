import Mathlib.Algebra.Order.Field.Rat
import Mathlib.Data.Finset.Max
import Mathlib.Data.List.Sort
import Mathlib.Tactic.Linarith
import Mathlib.Tactic.Ring
import Mathlib.Tactic.FieldSimp
import RecordAudit.Proofs.Solver.Pinned

/-!
# Candidates stand for all values

The values to try for a variable are enough: whatever value the variable has, one of them compares
in the same way with each of the points. Among rational numbers these are the points, the middles of
the gaps between them, and a number beyond each end; among integers, the points' neighbours.
-/

namespace RecordAudit

/-! ## Places among points -/

namespace Numeric

variable {x y p : Rat}

theorem order_eq_lt_iff : order .real x p = .lt ↔ x < p := by
  simp only [order]
  split
  · simp_all
  · split <;> simp_all

theorem order_eq_gt_iff : order .real x p = .gt ↔ p < x := by
  simp only [order]
  split
  · next h => simpa using h.le
  · next h =>
    split
    · next e => simp [e]
    · next ne => simpa using lt_of_le_of_ne (not_lt.1 h) (Ne.symm ne)

theorem order_eq_order_of_lt (hx : x < p) (hy : y < p) : order .real x p = order .real y p := by
  rw [order_eq_lt_iff.2 hx, order_eq_lt_iff.2 hy]

theorem order_eq_order_of_gt (hx : p < x) (hy : p < y) : order .real x p = order .real y p := by
  rw [order_eq_gt_iff.2 hx, order_eq_gt_iff.2 hy]

end Numeric

open Numeric

/-- Two numbers have the same place among some points: they compare with each of them alike. -/
def SamePlace (points : List Rat) (x y : Rat) : Prop :=
  ∀ p ∈ points, order .real x p = order .real y p

/-! ## Rational numbers -/

/-- Between ascending points, and beyond the last, there is a candidate in every gap. -/
theorem exists_afterEach {p x : Rat} {rest : List Rat} (ascending : (p :: rest).Pairwise (· ≤ ·))
    (beyond : p < x) (off : x ∉ rest) :
    ∃ c ∈ afterEach (p :: rest), p < c ∧ SamePlace (p :: rest) c x := by
  induction rest generalizing p with
  | nil =>
    have after : p < p + 1 := by linarith
    refine ⟨p + 1, List.mem_singleton.2 rfl, after, fun q mem => ?_⟩
    rw [List.mem_singleton.1 mem]
    exact order_eq_order_of_gt after beyond
  | cons q rest ih =>
    obtain ⟨first, others⟩ := List.pairwise_cons.1 ascending
    have pq : p ≤ q := first q (by simp)
    obtain ⟨ne, off⟩ : x ≠ q ∧ x ∉ rest := by simpa using off
    rcases lt_or_gt_of_ne ne with before | after
    · have left : p < (p + q) / 2 := by linarith
      have right : (p + q) / 2 < q := by linarith
      refine ⟨(p + q) / 2, by simp [afterEach], left, fun r mem => ?_⟩
      rcases List.mem_cons.1 mem with rfl | mem
      · exact order_eq_order_of_gt left beyond
      · have qr : q ≤ r := by
          rcases List.mem_cons.1 mem with rfl | mem
          · exact le_refl r
          · exact (List.pairwise_cons.1 others).1 r mem
        exact order_eq_order_of_lt (by linarith) (by linarith)
    · obtain ⟨c, mem, qc, same⟩ := ih others after off
      have pc : p < c := lt_of_le_of_lt pq qc
      refine ⟨c, by simp [afterEach, mem], pc, fun r mem => ?_⟩
      rcases List.mem_cons.1 mem with rfl | mem
      · exact order_eq_order_of_gt pc beyond
      · exact same r mem

theorem exists_rationalCandidate {points : List Rat} (nonempty : points ≠ []) (x : Rat) :
    ∃ c ∈ rationalCandidates points, SamePlace points c x := by
  have perm : (points.mergeSort (· ≤ ·)).Perm points := List.mergeSort_perm points _
  have ascending : (points.mergeSort (· ≤ ·)).Pairwise (· ≤ ·) :=
    List.pairwise_mergeSort' (· ≤ ·) points
  unfold rationalCandidates
  dsimp only
  generalize points.mergeSort (· ≤ ·) = sorted at perm ascending
  have back : ∀ c, SamePlace sorted c x → SamePlace points c x :=
    fun c same p mem => same p (perm.mem_iff.2 mem)
  by_cases on : x ∈ sorted
  · cases sorted with
    | nil => cases on
    | cons first rest => exact ⟨x, by simp at on ⊢; tauto, fun p mem => rfl⟩
  · cases sorted with
    | nil => exact absurd perm.symm.eq_nil nonempty
    | cons first rest =>
      obtain ⟨ne, off⟩ : x ≠ first ∧ x ∉ rest := by simpa using on
      rcases lt_or_gt_of_ne ne with before | after
      · have least : ∀ p ∈ first :: rest, first ≤ p := fun p mem => by
          rcases List.mem_cons.1 mem with rfl | mem
          · exact le_refl p
          · exact (List.pairwise_cons.1 ascending).1 p mem
        refine ⟨first - 1, by simp, back _ fun p mem => ?_⟩
        have := least p mem
        exact order_eq_order_of_lt (by linarith) (by linarith)
      · obtain ⟨c, mem, -, same⟩ := exists_afterEach ascending after off
        exact ⟨c, by simp [mem], back _ same⟩

/-! ## Integers -/

theorem exists_last_below {points : List Rat} {x : Rat} (below : ∃ p ∈ points, p < x) :
    ∃ p ∈ points, p < x ∧ ∀ q ∈ points, q < x → q ≤ p := by
  obtain ⟨p, mem, isBelow⟩ := below
  have nonempty : (points.toFinset.filter (· < x)).Nonempty := ⟨p, by simp [mem, isBelow]⟩
  obtain ⟨last, isLast, greatest⟩ := Finset.exists_max_image _ id nonempty
  simp only [Finset.mem_filter, List.mem_toFinset, id] at isLast greatest
  exact ⟨last, isLast.1, isLast.2, fun q mem isBelow => greatest q ⟨mem, isBelow⟩⟩

theorem exists_first {points : List Rat} (nonempty : points ≠ []) :
    ∃ p ∈ points, ∀ q ∈ points, p ≤ q := by
  obtain ⟨p, mem, least⟩ := Finset.exists_min_image points.toFinset id (by simpa using nonempty)
  exact ⟨p, List.mem_toFinset.1 mem, fun q isPoint => least q (List.mem_toFinset.2 isPoint)⟩

theorem exists_integerCandidate {points : List Rat} (nonempty : points ≠ []) (i : Int) :
    ∃ c ∈ integerCandidates points, SamePlace points c i := by
  have among : ∀ p ∈ points, ∀ c ∈ [p.floor, p.floor + 1, p.ceil - 1],
      c ∈ integerCandidates points :=
    fun p mem c isNear => List.mem_flatMap.2 ⟨p, mem, isNear⟩
  by_cases on : (i : Rat) ∈ points
  · exact ⟨i, among i on i (by simp), fun p mem => rfl⟩
  have off : ∀ q ∈ points, q ≠ i := fun q mem same => on (same ▸ mem)
  by_cases below : ∃ p ∈ points, p < i
  · -- the first integer after the last point below
    obtain ⟨p, mem, pi, last⟩ := exists_last_below below
    have pc : p < ((p.floor + 1 : Int) : Rat) := by
      exact Rat.floor_lt_iff.1 (Int.lt_succ p.floor)
    have ci : ((p.floor + 1 : Int) : Rat) ≤ i := by
      exact_mod_cast Int.add_one_le_iff.2 (Rat.floor_lt_iff.2 pi)
    refine ⟨p.floor + 1, among p mem _ (by simp), fun q isPoint => ?_⟩
    rcases lt_or_gt_of_ne (off q isPoint) with before | after
    · exact order_eq_order_of_gt (lt_of_le_of_lt (last q isPoint before) pc) before
    · exact order_eq_order_of_lt (lt_of_le_of_lt ci after) after
  · -- the last integer before all points
    obtain ⟨p, mem, first⟩ := exists_first nonempty
    have above : ∀ q ∈ points, (i : Rat) < q := fun q isPoint =>
      lt_of_le_of_ne (not_lt.1 fun before => below ⟨q, isPoint, before⟩) (off q isPoint).symm
    have cp : ((p.ceil - 1 : Int) : Rat) < p := by
      have := Rat.ceil_lt (x := p)
      push_cast
      linarith
    refine ⟨p.ceil - 1, among p mem _ (by simp), fun q isPoint => ?_⟩
    exact order_eq_order_of_lt (lt_of_lt_of_le cp (first q isPoint)) (above q isPoint)

/-! ## Variables -/

/-- Every value of a numeric sort has a candidate at its place. -/
theorem exists_candidate (n : Numeric) (points : List Rat) (value : n.Carrier) :
    ∃ c ∈ candidates (.numeric n) points, SamePlace points (n.toRat c) (n.toRat value) := by
  by_cases empty : points = []
  · subst empty
    cases n with
    | int => exact ⟨(0 : Int), List.mem_eraseDups.2 (by simp), nofun⟩
    | real => exact ⟨(0 : Rat), List.mem_eraseDups.2 (by simp), nofun⟩
  · cases n with
    | int =>
      obtain ⟨c, mem, same⟩ := exists_integerCandidate empty value
      exact ⟨c, List.mem_eraseDups.2 (by simp [mem]), same⟩
    | real =>
      obtain ⟨c, mem, same⟩ := exists_rationalCandidate empty value
      exact ⟨c, List.mem_eraseDups.2 (by simp [mem]), same⟩

end RecordAudit
