import Mathlib.Tactic.Common
import RecordAudit.Term.Elaborate

/-!
# Terms speak of declared variables only

What a term is elaborated to has no variables but those of the operands that are declared.
-/

namespace RecordAudit

/-- What a computation gives, if it gives something, has a property. -/
def Yields {α : Type} (P : α → Prop) (x : Except Fault α) : Prop := ∀ a, x = .ok a → P a

namespace Yields

variable {α β : Type} {P : α → Prop} {Q : β → Prop} {x : Except Fault α} {f : α → Except Fault β}

theorem ok {a : α} (h : P a) : Yields P (.ok a) := fun _ e => Except.ok.inj e ▸ h

theorem error (fault : Fault) : Yields P (.error fault) := nofun

theorem bind (hx : Yields P x) (hf : ∀ a, P a → Yields Q (f a)) : Yields Q (x >>= f) := by
  cases x with
  | ok a => exact hf a (hx a rfl)
  | error fault => exact error fault

theorem trivial (x : Except Fault α) : Yields (fun _ => True) x := fun _ _ => True.intro

theorem mapM {f : β → Except Fault α} {bs : List β} (h : ∀ b ∈ bs, Yields P (f b)) :
    Yields (fun as => ∀ a ∈ as, P a) (bs.mapM f) := by
  induction bs with
  | nil => exact ok (by simp)
  | cons b rest ih =>
    rw [List.mapM_cons]
    refine (h b (by simp)).bind fun a ha => ?_
    refine (ih fun b mem => h b (by simp [mem])).bind fun as has => ok fun a' mem => ?_
    rcases List.mem_cons.1 mem with rfl | mem
    · exact ha
    · exact has a' mem

end Yields

/-- The expression has no other variables than these. -/
def Expr.Over (D : VariableSort × String → Prop) {s : VariableSort} (e : Expr s) : Prop :=
  ∀ x ∈ e.vars, D x

variable {D : VariableSort × String → Prop}

namespace Expr.Over

theorem const {s : VariableSort} (value : s.Carrier) : (Expr.const value).Over D := nofun

theorem both {s t u : VariableSort} {a : Expr s} {b : Expr t} {c : Expr u} (ha : a.Over D)
    (hb : b.Over D) (vars : c.vars = a.vars ++ b.vars) : c.Over D := by
  intro x mem
  rw [vars] at mem
  exact (List.mem_append.1 mem).elim (ha x) (hb x)

theorem ite {s : VariableSort} {c : Expr .bool} {a b : Expr s} (hc : c.Over D) (ha : a.Over D)
    (hb : b.Over D) :
    (Expr.ite c a b).Over D := by
  intro x mem
  rw [Expr.vars, List.append_assoc] at mem
  rcases List.mem_append.1 mem with mem | mem
  · exact hc x mem
  · exact (List.mem_append.1 mem).elim (ha x) (hb x)

end Expr.Over

namespace Operand

/-- The operand has no other variables than these. -/
def Over (D : VariableSort × String → Prop) : Operand → Prop
  | .value _ => True
  | .expr _ e => e.Over D

def Pair.Over (D : VariableSort × String → Prop) : Pair → Prop
  | .bools a b => a.Over D ∧ b.Over D
  | .numerics _ a b => a.Over D ∧ b.Over D
  | .texts a b => a.Over D ∧ b.Over D

variable {a b : Operand}

/-! ## Common sorts -/

theorem over_indicator (n : Numeric) {e : Expr .bool} (h : e.Over D) : (indicator n e).Over D :=
  .ite h (.const _) (.const _)

theorem over_toBool (h : a.Over D) : Yields (fun e => e.Over D) a.toBool := by
  unfold toBool
  split
  · exact .ok (.const _)
  · split <;> exact .error _
  · exact .ok h
  · exact .error _

theorem over_toNumeric (n : Numeric) (h : a.Over D) :
    Yields (fun e => e.Over D) (a.toNumeric n) := by
  unfold toNumeric
  split
  · exact (Yields.trivial _).bind fun _ _ => .ok (.const _)
  · exact .ok (over_indicator n h)
  · split
    · exact .ok h
    · exact .ok h
    · exact .ok h
    · exact .error _
  · exact .error _

theorem over_toText (h : a.Over D) : Yields (fun e => e.Over D) a.toText := by
  unfold toText
  split
  · exact .error _
  · exact .ok h
  · exact .error _

theorem over_pairIn (s : VariableSort) (ha : a.Over D) (hb : b.Over D) :
    Yields (Pair.Over D) (pairIn s a b) := by
  cases s with
  | bool => exact (over_toBool ha).bind fun x hx => (over_toBool hb).bind fun y hy => .ok ⟨hx, hy⟩
  | numeric n =>
    exact (over_toNumeric n ha).bind fun x hx => (over_toNumeric n hb).bind fun y hy => .ok ⟨hx, hy⟩
  | text => exact (over_toText ha).bind fun x hx => (over_toText hb).bind fun y hy => .ok ⟨hx, hy⟩

theorem over_ofLiteral (v : Value) : Yields (Over D) (ofLiteral v) := by
  unfold ofLiteral
  split
  · exact .ok (.const _)
  · exact (Yields.trivial _).bind fun _ _ => .ok (.const _)
  · exact (Yields.trivial _).bind fun _ _ => .ok (.const _)
  · exact .ok (.const _)
  · exact .error _

theorem over_pair (ha : a.Over D) (hb : b.Over D) : Yields (Pair.Over D) (pair a b) := by
  unfold pair
  split
  · exact (Yields.trivial _).bind fun s _ => over_pairIn s ha hb
  · exact .ok ⟨ha, .const _⟩
  · exact .ok ⟨.const _, hb⟩
  · exact over_pairIn _ ha hb
  · exact over_pairIn _ ha hb
  · next v w =>
    refine (over_ofLiteral (D := D) v).bind fun x hx =>
      (over_ofLiteral (D := D) w).bind fun y hy => ?_
    split
    · exact (Yields.trivial _).bind fun s _ => over_pairIn s hx hy
    · exact .error _

theorem over_numericPair {α : Type} {P : α → Prop} (ha : a.Over D) (hb : b.Over D)
    {f : (n : Numeric) → Expr (.numeric n) → Expr (.numeric n) → Except Fault α}
    (hf : ∀ n x y, x.Over D → y.Over D → Yields P (f n x y)) : Yields P (numericPair a b f) := by
  refine (over_pair ha hb).bind fun p hp => ?_
  split
  · exact hf _ _ _ hp.1 hp.2
  · exact hf _ _ _ (over_indicator _ hp.1) (over_indicator _ hp.2)
  · exact .error _

/-! ## Operations -/

theorem over_scaled {factor : Expr .bool} (hf : factor.Over D) (ha : a.Over D) :
    Yields (Over D) (scaled factor a) := by
  refine (over_pair ha (b := .value (.int 0)) trivial).bind fun p hp => ?_
  cases p with
  | bools x y | numerics n x y | texts x y => exact .ok (Expr.Over.ite hf hp.1 hp.2)

theorem over_scaledValue {factor : Expr .bool} (hf : factor.Over D) (v : Value) :
    Yields (Over D) (scaledValue factor v) := by
  unfold scaledValue
  split
  · exact .ok (over_indicator _ hf)
  · exact .ok (.const _)
  · exact over_scaled hf trivial

theorem over_arithInCommon (op : ArithOp) (ha : a.Over D) (hb : b.Over D) :
    Yields (Over D) (arithInCommon op a b) :=
  over_numericPair ha hb fun _ _ _ hx hy => .ok (hx.both hy rfl)

theorem over_toSequence (h : a.Over D) : Yields (fun e => e.Over D) a.toSequence := by
  unfold toSequence
  split
  · exact .ok (.const _)
  · exact .ok h
  · exact .error _
  · exact .error _

theorem over_concat (ha : a.Over D) (hb : b.Over D) : Yields (Over D) (concat a b) := by
  unfold concat
  split
  · exact (over_toSequence ha).bind fun x hx => (over_toSequence hb).bind fun y hy =>
      .ok (hx.both hy rfl)
  · exact (over_toSequence ha).bind fun x hx => (over_toSequence hb).bind fun y hy =>
      .ok (hx.both hy rfl)
  · exact .error _

theorem over_arith (op : ArithOp) (ha : a.Over D) (hb : b.Over D) :
    Yields (Over D) (arith op a b) := by
  unfold arith
  dsimp only
  split
  · exact (Yields.trivial _).bind fun _ _ => .ok trivial
  · exact over_scaled ha (over_indicator _ hb)
  · exact over_scaledValue ha _
  · exact over_scaledValue hb _
  · exact over_scaled ha hb
  · exact over_scaled hb ha
  · split <;> exact .error _
  · split <;> exact .error _
  · exact over_arithInCommon _ (over_indicator _ ha) hb
  · split
    · exact over_concat ha hb
    · exact over_arithInCommon _ ha (over_indicator _ hb)
  · exact over_concat ha hb
  · exact over_concat ha hb
  · split
    · exact over_arithInCommon _ ha hb
    · exact .error _

theorem over_mod (ha : a.Over D) (hb : b.Over D) : Yields (Over D) (a.mod b) := by
  unfold mod
  split
  · exact (Yields.trivial _).bind fun _ _ => .ok trivial
  · exact (Yields.trivial _).bind fun _ _ => .ok trivial
  · split
    · refine over_numericPair ha hb fun n x y hx hy => ?_
      cases n with
      | int => exact .ok (hx.both hy rfl)
      | real => exact .error _
    · exact .error _

theorem over_negate (ha : a.Over D) : Yields (Over D) a.negate := by
  unfold negate
  split
  · exact (Yields.trivial _).bind fun _ _ => .ok trivial
  · exact .ok ha
  · exact .error _

theorem over_compareInCommon (c : Comparison) (ha : a.Over D) (hb : b.Over D) :
    Yields (Over D) (compareInCommon c a b) := by
  refine (over_pair ha hb).bind fun p hp => ?_
  split
  · exact .ok (hp.1.both hp.2 rfl)
  · exact .ok (hp.1.both hp.2 rfl)
  · exact .ok (hp.1.both hp.2 rfl)
  · exact .ok (hp.1.both hp.2 rfl)

theorem over_compareTexts (c : Comparison) (ha : a.Over D) (hb : b.Over D) :
    Yields (Over D) (Operand.compareTexts c a b) := by
  unfold Operand.compareTexts
  split
  · exact .ok (Expr.Over.both ha hb rfl)
  · exact .error _
  · exact .error _
  · exact .error _

theorem over_compare (c : Comparison) (ha : a.Over D) (hb : b.Over D) :
    Yields (Over D) (Operand.compare c a b) := by
  unfold Operand.compare
  split
  · exact (Yields.trivial _).bind fun _ _ => .ok trivial
  · exact .ok trivial
  · exact .ok trivial
  · exact .ok trivial
  · exact .ok trivial
  · exact over_compareInCommon _ ha hb
  · exact over_compareInCommon _ ha hb
  · exact over_compareInCommon _ ha hb
  · exact over_compareTexts _ ha hb
  · exact over_compareTexts _ ha hb
  · split
    · exact over_compareInCommon _ ha hb
    · exact .error _

theorem over_toExpression (h : a.Over D) : Yields (Over D) a.toExpression := by
  unfold toExpression
  split
  · exact over_ofLiteral _
  · exact .ok h

theorem over_connectiveItems {items : List Operand} (h : ∀ a ∈ items, a.Over D) :
    Yields (fun items => ∀ a ∈ items, a.Over D) (connectiveItems items) := by
  have settled : ∀ items : List Operand, (∀ a ∈ items, a.Over D) →
      Yields (fun items => ∀ a ∈ items, a.Over D)
        (if items.any (·.sort?.isSome) then .ok items else items.mapM toExpression) := by
    intro items h
    split
    · exact .ok h
    · exact .mapM fun item mem => over_toExpression (h item mem)
  unfold connectiveItems
  dsimp only
  split
  · refine settled _ fun a mem => ?_
    obtain ⟨v, -, rfl⟩ := List.mem_map.1 mem
    trivial
  · exact settled _ h

theorem over_connective (name : String) {join : Expr .bool → Expr .bool → Expr .bool}
    (hj : ∀ a b, (join a b).vars = a.vars ++ b.vars) (unit : Bool) {items : List Operand}
    (h : ∀ a ∈ items, a.Over D) : Yields (Over D) (connective name join unit items) := by
  have joined : ∀ (rest : List (Expr .bool)) (first : Expr .bool), first.Over D →
      (∀ e ∈ rest, e.Over D) → (rest.foldl join first).Over D := by
    intro rest
    induction rest with
    | nil => exact fun first hfirst _ => hfirst
    | cons e rest ih =>
      intro first hfirst hrest
      exact ih _ (hfirst.both (hrest e (by simp)) (hj first e)) fun e' mem =>
        hrest e' (by simp [mem])
  refine (over_connectiveItems h).bind fun items hitems => (Yields.trivial _).bind fun s _ => ?_
  cases s with
  | bool =>
    refine (Yields.mapM fun a mem => over_toBool (hitems a mem)).bind fun es hes => ?_
    cases es with
    | nil => exact .ok (.const _)
    | cons first rest =>
      exact .ok (joined rest first (hes first (by simp)) fun e mem => hes e (by simp [mem]))
  | numeric n => exact (Yields.trivial _).bind fun _ _ => .error _
  | text => exact (Yields.trivial _).bind fun _ _ => .error _

theorem over_not (ha : a.Over D) : Yields (Over D) a.not := (over_toBool ha).bind fun _ hx => .ok hx

theorem over_implies (ha : a.Over D) (hb : b.Over D) : Yields (Over D) (a.implies b) :=
  (over_toBool ha).bind fun _ hx => (over_toBool hb).bind fun _ hy => .ok (hx.both hy rfl)

theorem over_xor (ha : a.Over D) (hb : b.Over D) : Yields (Over D) (a.xor b) :=
  (over_toBool ha).bind fun _ hx => (over_toBool hb).bind fun _ hy => .ok (hx.both hy rfl)

theorem over_toReal (ha : a.Over D) : Yields (Over D) a.toReal := by
  unfold toReal
  split
  · exact .error _
  · exact .ok (over_indicator _ ha)
  · exact .ok ha
  · exact .error _
  · exact .error _

theorem over_ite {c : Operand} (hc : c.Over D) (ha : a.Over D) (hb : b.Over D) :
    Yields (Over D) (c.ite a b) := by
  refine (over_toBool hc).bind fun x hx => (over_pair ha hb).bind fun p hp => ?_
  cases p with
  | bools y z | numerics n y z | texts y z => exact .ok (Expr.Over.ite hx hp.1 hp.2)

end Operand

/-! ## Terms -/

namespace Term

variable {declared : Declared}

theorem over_lookup (h : ∀ name operand, declared.get? name = some operand → operand.Over D)
    (name : String) :
    Yields (Operand.Over D) (declared.lookup name) := by
  unfold Declared.lookup
  split
  · next operand found => exact .ok (h name operand found)
  · exact .error _

mutual

theorem over_elaborate (h : ∀ name operand, declared.get? name = some operand → operand.Over D) :
    (t : Term) → Yields (Operand.Over D) (t.elaborate declared)
  | .variable name => over_lookup h name
  | .literal _ => .ok trivial
  | .arith op a b =>
    (over_elaborate h a).bind fun _ ha => (over_elaborate h b).bind fun _ hb =>
      Operand.over_arith op ha hb
  | .mod a b =>
    (over_elaborate h a).bind fun _ ha => (over_elaborate h b).bind fun _ hb =>
      Operand.over_mod ha hb
  | .negate a => (over_elaborate h a).bind fun _ ha => Operand.over_negate ha
  | .compare c a b =>
    (over_elaborate h a).bind fun _ ha => (over_elaborate h b).bind fun _ hb =>
      Operand.over_compare c ha hb
  | .and items =>
    (over_elaborateAll h items).bind fun _ hs => Operand.over_connective _ (fun _ _ => rfl) _ hs
  | .or items =>
    (over_elaborateAll h items).bind fun _ hs => Operand.over_connective _ (fun _ _ => rfl) _ hs
  | .not a => (over_elaborate h a).bind fun _ ha => Operand.over_not ha
  | .implies a b =>
    (over_elaborate h a).bind fun _ ha => (over_elaborate h b).bind fun _ hb =>
      Operand.over_implies ha hb
  | .xor a b =>
    (over_elaborate h a).bind fun _ ha => (over_elaborate h b).bind fun _ hb =>
      Operand.over_xor ha hb
  | .toReal a => (over_elaborate h a).bind fun _ ha => Operand.over_toReal ha
  | .ite c a b =>
    (over_elaborate h c).bind fun _ hc => (over_elaborate h a).bind fun _ ha =>
      (over_elaborate h b).bind fun _ hb =>
      Operand.over_ite hc ha hb

theorem over_elaborateAll (h : ∀ name operand, declared.get? name = some operand → operand.Over D) :
    (ts : List Term) →
    Yields (fun operands => ∀ a ∈ operands, a.Over D) (elaborateAll declared ts)
  | [] => .ok (by simp)
  | t :: rest =>
    (over_elaborate h t).bind fun _ ha => (over_elaborateAll h rest).bind fun _ hs =>
      .ok fun a mem => by
      rcases List.mem_cons.1 mem with rfl | mem
      · exact ha
      · exact hs a mem

end

end Term

end RecordAudit
