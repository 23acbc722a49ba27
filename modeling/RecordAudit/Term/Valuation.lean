import RecordAudit.Term.Basic

/-!
# Valuations

Valuations that are built up variable by variable from one that gives every variable a value.
-/

namespace RecordAudit

/-- A value that every sort has. -/
def VariableSort.zero : (s : VariableSort) → s.Carrier
  | .bool => false
  | .numeric n => n.ofInt 0
  | .text => ""

namespace Valuation

def zero : Valuation := fun s _ => s.zero

def set (v : Valuation) (s : VariableSort) (name : String) (value : s.Carrier) : Valuation :=
  fun t other => if h : s = t then if name = other then h ▸ value else v t other else v t other

@[simp] theorem set_self (v : Valuation) (s : VariableSort) (name : String) (value : s.Carrier) :
    v.set s name value s name = value := by simp [set]

theorem set_other {v : Valuation} {s t : VariableSort} {name other : String} {value : s.Carrier}
    (h : (s, name) ≠ (t, other)) : v.set s name value t other = v t other := by
  unfold set
  split
  · next hs =>
    subst hs
    split
    · next hn => exact absurd (by rw [hn]) h
    · rfl
  · rfl

end Valuation

namespace Expr

theorem eval_congr {s : VariableSort} (e : Expr s) {v w : Valuation}
    (h : ∀ x ∈ e.vars, v x.1 x.2 = w x.1 x.2) : e.eval v = e.eval w := by
  induction e with
  | var s name => exact h (s, name) (by simp [vars])
  | const value => rfl
  | arith op a b iha ihb | compare c a b iha ihb | remainder a b iha ihb | iff a b iha ihb
  | and a b iha ihb | or a b iha ihb | implies a b iha ihb | concat a b iha ihb
  | compareText c a b iha ihb =>
    simp only [vars, List.mem_append] at h
    simp only [eval, iha fun x hx => h x (.inl hx), ihb fun x hx => h x (.inr hx)]
  | negate a ih | toReal a ih | not a ih =>
    simp only [eval, ih h]
  | ite c a b ihc iha ihb =>
    simp only [vars, List.mem_append] at h
    simp only [eval, ihc fun x hx => h x (.inl (.inl hx)), iha fun x hx => h x (.inl (.inr hx)),
      ihb fun x hx => h x (.inr hx)]

end Expr

end RecordAudit
