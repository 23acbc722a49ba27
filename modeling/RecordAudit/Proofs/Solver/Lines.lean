import Mathlib.Algebra.Order.Field.Rat
import Mathlib.Tactic.Linarith
import Mathlib.Tactic.Ring
import RecordAudit.Proofs.Solver.Pinned

/-!
# Where expressions lie on lines

The value of a linear expression is on one of its lines, so two valuations for which the differences
of all comparisons stay on the same sides of zero give an assertion the same truth value.
-/

namespace RecordAudit

variable {pins : Pins} {v w : Valuation}

/-! ## Values on lines -/

namespace Line

variable {a b c : Line}

/-- The value of a line where its variable has the value of a valuation. -/
def valueAt (v : Valuation) : Line → Rat
  | .constant q => q
  | .through n name slope offset => slope * n.toRat (v (.numeric n) name) + offset

@[simp] theorem valueAt_scale (factor : Rat) (l : Line) :
    (l.scale factor).valueAt v = factor * l.valueAt v := by
  cases l with
  | constant q => rfl
  | through n name slope offset => simp only [scale, valueAt]; ring

theorem valueAt_add (h : a.add b = some c) : c.valueAt v = a.valueAt v + b.valueAt v := by
  unfold add at h
  split at h
  · cases h
    rfl
  · cases h
    simp only [valueAt]
    ring
  · cases h
    simp only [valueAt]
    ring
  · split at h
    · next same =>
      obtain ⟨rfl, rfl⟩ := same
      cases h
      simp only [valueAt]
      ring
    · cases h

theorem valueAt_sub (h : a.sub b = some c) : c.valueAt v = a.valueAt v - b.valueAt v := by
  rw [valueAt_add h, valueAt_scale]
  ring

theorem valueAt_mul (h : a.mul b = some c) : c.valueAt v = a.valueAt v * b.valueAt v := by
  unfold mul at h
  split at h
  · cases h
    rw [valueAt_scale]
    rfl
  · cases h
    rw [valueAt_scale, mul_comm]
    rfl
  · cases h

theorem valueAt_div {n : Numeric} {x y : n.Carrier} (h : div n a b = some c)
    (left : a.valueAt v = n.toRat x) (right : b.valueAt v = n.toRat y) :
    c.valueAt v = n.toRat (n.apply .div x y) := by
  cases n with
  | int =>
    unfold div at h
    split at h
    · cases h
      simp only [valueAt] at left right ⊢
      subst left right
      rfl
    · contradiction
    · cases h
  | real =>
    unfold div at h
    split at h
    · contradiction
    · cases h
      simp only [valueAt] at right
      subst right
      rw [valueAt_scale, left]
      exact (div_eq_inv_mul _ _).symm
    · cases h

/-- A line that goes through the values of two operands goes through the value of the operation. -/
theorem valueAt_arith {n : Numeric} {op : ArithOp} {x y : n.Carrier} (h : arith n op a b = some c)
    (left : a.valueAt v = n.toRat x) (right : b.valueAt v = n.toRat y) :
    c.valueAt v = n.toRat (n.apply op x y) := by
  cases op with
  | add =>
    rw [valueAt_add h, left, right]
    cases n <;> simp [Numeric.toRat, Numeric.apply]
  | sub =>
    rw [valueAt_sub h, left, right]
    cases n <;> simp [Numeric.toRat, Numeric.apply]
  | mul =>
    rw [valueAt_mul h, left, right]
    cases n <;> simp [Numeric.toRat, Numeric.apply]
  | div => exact valueAt_div h left right

theorem valueAt_remainder {x y : Int} (h : remainder a b = some c)
    (left : a.valueAt v = Numeric.toRat .int x) (right : b.valueAt v = Numeric.toRat .int y) :
    c.valueAt v = Numeric.toRat .int (Int.emod x y) := by
  unfold remainder at h
  split at h
  · cases h
    simp only [valueAt] at left right ⊢
    subst left right
    rfl
  · cases h

theorem eq_map_of_mapM_id {α : Type} {xs : List (Option α)} {ys : List α}
    (h : xs.mapM id = some ys) :
    xs = ys.map some := by
  induction xs generalizing ys with
  | nil =>
    cases h
    rfl
  | cons x rest ih =>
    rw [List.mapM_cons] at h
    obtain ⟨y, rfl, others⟩ := Option.bind_eq_some_iff.1 h
    obtain ⟨ys', found, same⟩ := Option.bind_eq_some_iff.1 others
    cases same
    rw [List.map_cons, ih found]

theorem mem_combine {f : Line → Line → Option Line} {as bs cs : List Line}
    (h : combine f as bs = some cs) (ha : a ∈ as) (hb : b ∈ bs) : ∃ c ∈ cs, f a b = some c := by
  obtain ⟨all, found, rfl⟩ := Option.map_eq_some_iff.1 h
  have pair : f a b ∈ all.map some := by
    rw [← eq_map_of_mapM_id found]
    exact List.mem_flatMap.2 ⟨a, ha, List.mem_map_of_mem hb⟩
  obtain ⟨c, mem, same⟩ := List.mem_map.1 pair
  exact ⟨c, List.mem_eraseDups.2 mem, same.symm⟩

end Line

/-! ## Sides -/

theorem Numeric.order_eq_order_sub {n : Numeric} (x y : n.Carrier) :
    n.order x y = Numeric.order .real (n.toRat x - n.toRat y) (0 : Rat) := by
  cases n with
  | int =>
    simp only [order, toRat, compareOfLessAndEq, sub_neg, sub_eq_zero, Int.cast_lt, Int.cast_inj]
  | real => simp only [order, toRat, sub_neg, sub_eq_zero]

/-- Two valuations give a line values on the same side of zero. -/
def Line.SameSide (v w : Valuation) (l : Line) : Prop :=
  Numeric.order .real (l.valueAt v) (0 : Rat) = Numeric.order .real (l.valueAt w) (0 : Rat)

/-- Two valuations keep to given values, and agree on all truth values. -/
structure Pins.Alike (pins : Pins) (v w : Valuation) : Prop where
  pinned : ∀ s name value, pins s name = some value → v s name = value ∧ w s name = value
  flags : ∀ name, v .bool name = w .bool name

namespace Expr

/-- What two valuations that are alike do with an expression: a truth value is the same, a number
lies on the same one of the expression's lines, and a text without variables for texts is the
same. -/
def Alike (pins : Pins) (v w : Valuation) : {s : VariableSort} → Expr s → Prop
  | .bool, e => e.eval v = e.eval w
  | .numeric n, e => ∀ ls, e.lines? pins = some ls →
      ∃ l ∈ ls, l.valueAt v = n.toRat (e.eval v) ∧ l.valueAt w = n.toRat (e.eval w)
  | .text, e => (∀ x ∈ e.vars, x.1 ≠ .text) → e.eval v = e.eval w

/-- Where the lines of two expressions are combined, the values of both meet on one of the
results. -/
theorem exists_combined {m n : Numeric} {a : Expr (.numeric m)} {b : Expr (.numeric n)}
    {f : Line → Line → Option Line} {ls : List Line} (ha : a.Alike pins v w) (hb : b.Alike pins v w)
    (lines : (do Line.combine f (← a.lines? pins) (← b.lines? pins)) = some ls) :
    ∃ l ∈ ls, ∃ la lb, f la lb = some l ∧
      (la.valueAt v = m.toRat (a.eval v) ∧ lb.valueAt v = n.toRat (b.eval v)) ∧
      la.valueAt w = m.toRat (a.eval w) ∧ lb.valueAt w = n.toRat (b.eval w) := by
  obtain ⟨as, ofA, lines⟩ := Option.bind_eq_some_iff.1 lines
  obtain ⟨bs, ofB, combined⟩ := Option.bind_eq_some_iff.1 lines
  obtain ⟨la, memA, va, wa⟩ := ha as ofA
  obtain ⟨lb, memB, vb, wb⟩ := hb bs ofB
  obtain ⟨l, mem, result⟩ := Line.mem_combine combined memA memB
  exact ⟨l, mem, la, lb, result, ⟨va, vb⟩, wa, wb⟩

/-! ### Operations -/

section Operations

variable {n : Numeric} {s : VariableSort}

theorem alike_var (same : pins.Alike v w) (name : String) : (Expr.var s name).Alike pins v w := by
  cases s with
  | bool => exact same.flags name
  | numeric n =>
    intro ls lines
    rw [lines?] at lines
    split at lines
    · next value pin =>
      cases lines
      obtain ⟨hv, hw⟩ := same.pinned _ _ _ pin
      exact ⟨_, List.mem_singleton.2 rfl, by
        simp [Line.valueAt, eval, hv], by simp [Line.valueAt, eval, hw]⟩
    · cases lines
      exact ⟨_, List.mem_singleton.2 rfl, by
        simp [Line.valueAt, eval], by simp [Line.valueAt, eval]⟩
  | text => exact fun none => absurd rfl (none (.text, name) (List.mem_singleton.2 rfl))

theorem alike_const (value : s.Carrier) : (Expr.const value).Alike pins v w := by
  cases s with
  | bool => rfl
  | numeric n =>
    intro ls lines
    rw [lines?] at lines
    cases lines
    exact ⟨_, List.mem_singleton.2 rfl, by simp [Line.valueAt, eval], by simp [Line.valueAt, eval]⟩
  | text => exact fun _ => rfl

theorem Alike.negate {a : Expr (.numeric n)} (ha : a.Alike pins v w) :
    (Expr.negate a).Alike pins v w := by
  intro ls lines
  rw [lines?] at lines
  obtain ⟨as, ofA, same⟩ := Option.bind_eq_some_iff.1 lines
  cases same
  obtain ⟨la, mem, va, wa⟩ := ha as ofA
  refine ⟨_, List.mem_map_of_mem mem, ?_, ?_⟩
  · rw [Line.valueAt_scale, va]
    cases n <;> simp [eval, Numeric.toRat, Numeric.negate]
  · rw [Line.valueAt_scale, wa]
    cases n <;> simp [eval, Numeric.toRat, Numeric.negate]

theorem Alike.ite {c : Expr .bool} {a b : Expr s} (hc : c.Alike pins v w) (ha : a.Alike pins v w)
    (hb : b.Alike pins v w) : (Expr.ite c a b).Alike pins v w := by
  have condition : c.eval v = c.eval w := hc
  cases s with
  | bool =>
    have ofA : a.eval v = a.eval w := ha
    have ofB : b.eval v = b.eval w := hb
    change Expr.eval v _ = Expr.eval w _
    simp only [eval, condition, ofA, ofB]
  | numeric n =>
    intro ls lines
    rw [lines?] at lines
    obtain ⟨as, ofA, lines⟩ := Option.bind_eq_some_iff.1 lines
    obtain ⟨bs, ofB, joined⟩ := Option.bind_eq_some_iff.1 lines
    cases joined
    simp only [eval, condition]
    split
    · obtain ⟨l, mem, values⟩ := ha as ofA
      exact ⟨l, List.mem_eraseDups.2 (List.mem_append_left _ mem), values⟩
    · obtain ⟨l, mem, values⟩ := hb bs ofB
      exact ⟨l, List.mem_eraseDups.2 (List.mem_append_right _ mem), values⟩
  | text =>
    intro none
    simp only [vars, List.forall_mem_append] at none
    have ofA : a.eval v = a.eval w := ha none.1.2
    have ofB : b.eval v = b.eval w := hb none.2
    simp only [eval, condition, ofA, ofB]

/-- A difference that stays on the same side of zero keeps the order of two numbers. -/
theorem Alike.compare {a b : Expr (.numeric n)} (c : Comparison) (ha : a.Alike pins v w)
    (hb : b.Alike pins v w) {ls : List Line}
    (lines : (do Line.combine Line.sub (← a.lines? pins) (← b.lines? pins)) = some ls)
    (same : ∀ l ∈ ls, l.SameSide v w) : (Expr.compare c a b).Alike pins v w := by
  obtain ⟨l, mem, la, lb, difference, ⟨va, vb⟩, wa, wb⟩ := exists_combined ha hb lines
  have side : l.SameSide v w := same l mem
  rw [Line.SameSide, Line.valueAt_sub difference, Line.valueAt_sub difference, va, vb, wa, wb,
    ← Numeric.order_eq_order_sub, ← Numeric.order_eq_order_sub] at side
  change Expr.eval v _ = Expr.eval w _
  simp only [eval, Numeric.compare, side]

end Operations

/-- Comparisons whose differences stay on the same sides decide everything else. -/
theorem alike {s : VariableSort} (e : Expr s) (same : pins.Alike v w)
    (sides : ∀ d ∈ e.differences pins, ∃ ls, d = some ls ∧ ∀ l ∈ ls, l.SameSide v w) :
    e.Alike pins v w := by
  induction e with
  | var s name => exact alike_var same name
  | const value => exact alike_const value
  | arith op a b iha ihb =>
    simp only [differences, List.forall_mem_append] at sides
    intro ls lines
    rw [lines?] at lines
    obtain ⟨l, mem, la, lb, result, ⟨va, vb⟩, wa, wb⟩ :=
      exists_combined (iha sides.1) (ihb sides.2) lines
    exact ⟨l, mem, Line.valueAt_arith result va vb, Line.valueAt_arith result wa wb⟩
  | remainder a b iha ihb =>
    simp only [differences, List.forall_mem_append] at sides
    intro ls lines
    rw [lines?] at lines
    obtain ⟨l, mem, la, lb, result, ⟨va, vb⟩, wa, wb⟩ :=
      exists_combined (iha sides.1) (ihb sides.2) lines
    exact ⟨l, mem, Line.valueAt_remainder result va vb, Line.valueAt_remainder result wa wb⟩
  | negate a ih => exact (ih sides).negate
  | toReal a ih =>
    intro ls lines
    rw [lines?] at lines
    exact ih sides ls lines
  | ite c a b ihc iha ihb =>
    simp only [differences, List.forall_mem_append] at sides
    exact (ihc sides.1.1).ite (iha sides.1.2) (ihb sides.2)
  | compare c a b iha ihb =>
    simp only [differences, List.forall_mem_cons, List.forall_mem_append] at sides
    obtain ⟨⟨ls, lines, onSides⟩, inA, inB⟩ := sides
    exact (iha inA).compare c (ihb inB) lines onSides
  | concat a b iha ihb =>
    simp only [differences, List.forall_mem_append] at sides
    intro none
    simp only [vars, List.forall_mem_append] at none
    have ofA : a.eval v = a.eval w := iha sides.1 none.1
    have ofB : b.eval v = b.eval w := ihb sides.2 none.2
    simp only [eval, ofA, ofB]
  | compareText c a b iha ihb =>
    rw [differences] at sides
    split at sides
    · obtain ⟨ls, absent, -⟩ := sides none (List.mem_singleton.2 rfl)
      cases absent
    · next textless =>
      simp only [List.forall_mem_append] at sides
      have none : ∀ x ∈ a.vars ++ b.vars, x.1 ≠ .text := fun x mem isText =>
        textless (List.any_eq_true.2 ⟨x, mem, beq_iff_eq.2 isText⟩)
      rw [List.forall_mem_append] at none
      have ofA : a.eval v = a.eval w := iha sides.1 none.1
      have ofB : b.eval v = b.eval w := ihb sides.2 none.2
      change Expr.eval v _ = Expr.eval w _
      simp only [eval, ofA, ofB]
  | iff a b iha ihb | and a b iha ihb | or a b iha ihb | implies a b iha ihb =>
    simp only [differences, List.forall_mem_append] at sides
    have ofA : a.eval v = a.eval w := iha sides.1
    have ofB : b.eval v = b.eval w := ihb sides.2
    change Expr.eval v _ = Expr.eval w _
    simp only [eval, ofA, ofB]
  | not a ih =>
    have ofA : a.eval v = a.eval w := ih sides
    change Expr.eval v _ = Expr.eval w _
    simp only [eval, ofA]

end Expr

end RecordAudit
