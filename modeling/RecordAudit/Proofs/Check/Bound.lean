import Mathlib.Data.List.Perm.Basic
import RecordAudit.Proofs.Reading.Exact
import RecordAudit.Proofs.Solver.Decider
import RecordAudit.Proofs.Solver.Pinned
import RecordAudit.Proofs.Term.Scope

/-!
# Assertions with a record's values

A constraint's variables are bound to what is read from a record. The solver is then asked about
assertions that leave nothing open, and the answer of a solver that is right is the value of the
assertions.
-/

namespace RecordAudit

open Reading

/-! ## Assertions as expressions -/

/-- The expressions that operands assert, if all of them are assertions. -/
def expressionsOf (operands : List Operand) : Except Fault (List (Expr .bool)) :=
  (operands.flatMap Operand.items).mapM Operand.toBool

theorem expressionsOf_cons (o : Operand) (rest : List Operand) :
    expressionsOf (o :: rest) = do
      let es ← o.items.mapM Operand.toBool
      let others ← expressionsOf rest
      return es ++ others := by
  rw [expressionsOf, List.flatMap_cons, List.mapM_append]
  rfl

/-- Items are added when all of them are assertions, and what they assert is what they are. -/
theorem forM_toBool (items : List Operand) :
    items.forM (fun o => o.toBool.map fun _ => ()) = (items.mapM Operand.toBool).map (fun _ => ()) ∧
      ∀ es, items.mapM Operand.toBool = .ok es → assertedBy.go items = es := by
  induction items with
  | nil => exact ⟨rfl, fun es h => Except.ok.inj h⟩
  | cons o rest ih =>
    have first : (o :: rest).forM (fun o => o.toBool.map fun _ => ()) =
        (do o.toBool.map fun _ => (); rest.forM fun o => o.toBool.map fun _ => ()) := rfl
    rw [first, ih.1, List.mapM_cons, assertedBy.go]
    cases o.toBool with
    | error f => exact ⟨rfl, fun es h => by cases h⟩
    | ok e =>
      cases others : rest.mapM Operand.toBool with
      | error f => exact ⟨rfl, fun es h => by cases h⟩
      | ok es =>
        refine ⟨rfl, fun es' h => ?_⟩
        rw [ih.2 es others]
        exact Except.ok.inj h

theorem forM_takes (d : Decider) (operands : List Operand) :
    operands.forM d.judge.takes = (expressionsOf operands).map (fun _ => ()) ∧
      ∀ es, expressionsOf operands = .ok es → operands.flatMap assertedBy = es := by
  induction operands with
  | nil => exact ⟨rfl, fun es h => Except.ok.inj h⟩
  | cons o rest ih =>
    obtain ⟨taken, asserted⟩ := forM_toBool o.items
    have first : (o :: rest).forM d.judge.takes =
        (do o.items.forM (fun o => o.toBool.map fun _ => ())
            rest.forM d.judge.takes) := rfl
    rw [first, ih.1, taken, expressionsOf_cons, List.flatMap_cons]
    cases items : o.items.mapM Operand.toBool with
    | error f => exact ⟨rfl, fun es h => by cases h⟩
    | ok es =>
      cases others : expressionsOf rest with
      | error f => exact ⟨rfl, fun es h => by cases h⟩
      | ok es' =>
        refine ⟨rfl, fun all h => ?_⟩
        have own : assertedBy o = es := asserted es items
        rw [own, ih.2 es' others]
        exact Except.ok.inj h

theorem expressionsOf_perm {operands operands' : List Operand} (perm : operands.Perm operands')
    {es : List (Expr .bool)} (h : expressionsOf operands = .ok es) :
    ∃ es', expressionsOf operands' = .ok es' ∧ es.Perm es' := by
  obtain ⟨es', ok, permuted⟩ :=
    List.perm_comp_forall₂ (perm.symm.flatMap_right _) (mapM_eq_ok_iff.1 h)
  exact ⟨es', mapM_eq_ok_iff.2 ok, permuted.symm⟩

/-! ## Values of variables -/

theorem Reading.Kind.sort_ne_text (kind : Kind) : kind.sort ≠ .text := by
  cases kind <;> simp [sort]

/-- What is built has no other variables than these. -/
def Built.Over (D : VariableSort × String → Prop) : Built → Prop
  | .many items => ∀ a ∈ items, a.Over D
  | .one item => item.Over D

theorem Built.over_assertions {D : VariableSort × String → Prop} {b : Built} (h : b.Over D) :
    Yields (fun as => ∀ a ∈ as, a.Over D) b.assertions := by
  have plain : ∀ v : Value, Yields (fun as => ∀ a ∈ as, a.Over D) (itemsOf v) := by
    intro v
    unfold itemsOf
    split
    · exact .ok (by simp [Operand.Over])
    · exact .ok (by simp [Operand.Over])
    · exact .ok fun a mem => by
        obtain ⟨entry, -, rfl⟩ := List.mem_map.1 mem
        trivial
    · exact .error _
  cases b with
  | many items => exact .ok h
  | one item =>
    cases item with
    | expr s e => exact .ok fun a mem => by rw [List.mem_singleton.1 mem]; exact h
    | value v => exact plain v

namespace Constraint

/-- A variable is declared when it is that of a field, with the sort of the field's kind. -/
def Declares (c : Constraint) (x : VariableSort × String) : Prop :=
  ∃ kind, (x.2, kind) ∈ c.kinds.entries ∧ kind.sort = x.1

def expressions (c : Constraint) : Except Fault (List (Expr .bool)) :=
  do expressionsOf (← c.assertions)

/-- The constraint asserts something only about variables that it declares. -/
def Closed (c : Constraint) : Prop := ∀ es, c.expressions = .ok es → ∀ e ∈ es, e.Over c.Declares

/-- Each declared variable has the value that is read for it. -/
def valuation (c : Constraint) (values : FieldValues) : Valuation := fun s name =>
  match c.kinds.get? name with
  | some kind => if h : kind.sort = s then h ▸ kind.exact (values.raw? name) else s.zero
  | none => s.zero

def bound (c : Constraint) (values : FieldValues) : List (Expr .bool) :=
  c.kinds.entries.map fun (name, kind) => kind.sort.equals name (kind.exact (values.raw? name))

variable {c : Constraint} {values : FieldValues} {es : List (Expr .bool)} {d : Decider}

theorem valuation_of_mem {name : String} {kind : Kind} (mem : (name, kind) ∈ c.kinds.entries) :
    c.valuation values kind.sort name = kind.exact (values.raw? name) := by
  unfold valuation
  rw [Assoc.get?_eq_some_iff.2 mem]
  exact dif_pos rfl

theorem bindings_eq (d : Decider) (c : Constraint) (values : FieldValues) :
    bindings d.judge values c.kinds.entries = .ok ((c.bound values).map (Operand.expr .bool)) := by
  unfold bound
  induction c.kinds.entries with
  | nil => rfl
  | cons entry rest ih =>
    obtain ⟨name, kind⟩ := entry
    rw [bindings, Kind.binding_read, ih]
    rfl

theorem flatMap_assertedBy_expr (es : List (Expr .bool)) :
    (es.map (Operand.expr .bool)).flatMap assertedBy = es := by
  induction es with
  | nil => rfl
  | cons e rest ih => rw [List.map_cons, List.flatMap_cons, ih]; rfl

/-- The answer with the variables bound is that on the constraint's own expressions and the
bindings. -/
theorem answered_eq {as : List Operand} (asserted : as.flatMap assertedBy = es)
    (timeout : Timeout) :
    c.answered d.judge timeout values as = d.answerOn timeout (es ++ c.bound values) := by
  rw [answered, bindings_eq]
  change d.answerOn timeout ((as ++ (c.bound values).map (Operand.expr .bool)).flatMap assertedBy) =
    _
  rw [List.flatMap_append, asserted, flatMap_assertedBy_expr]

/-! ## Closed constraints -/

theorem closed_of_build (h : Yields (Built.Over c.Declares) (c.build (declareAll c.kinds))) :
    c.Closed := by
  have assertions : Yields (fun as => ∀ a ∈ as, a.Over c.Declares) c.assertions :=
    h.bind fun _ isOver => Built.over_assertions isOver
  refine assertions.bind fun as isOver => .mapM fun o mem => Operand.over_toBool ?_
  obtain ⟨a, among, item⟩ := List.mem_flatMap.1 mem
  unfold Operand.items at item
  split at item
  · obtain ⟨v, -, rfl⟩ := List.mem_map.1 item
    trivial
  · rw [List.mem_singleton.1 item]
    exact isOver a among

/-- The declared operands are the declared variables. -/
theorem declared_over (c : Constraint) (name : String) (operand : Operand)
    (declared : (declareAll c.kinds).get? name = some operand) : operand.Over c.Declares := by
  obtain ⟨⟨name', kind⟩, entry, same⟩ := List.mem_map.1 (Assoc.get?_eq_some_iff.1 declared)
  obtain ⟨rfl, rfl⟩ := Prod.mk.inj same
  intro x mem
  rw [List.mem_singleton.1 mem]
  exact ⟨kind, entry, rfl⟩

theorem closed_ofTerms (id name description : String) (severity : Severity)
    (kinds : List (String × Kind)) (terms : List Term) :
    (ofTerms id name description severity kinds terms).Closed :=
  closed_of_build ((Term.over_elaborateAll (declared_over _) terms).bind fun _ isOver => .ok isOver)

theorem closed_fieldRule (spec : FieldSpec) (rule : FieldRule) : (spec.constraint rule).Closed := by
  refine closed_of_build ((Yields.trivial _).bind fun threshold _ => ?_)
  refine (Term.over_lookup (declared_over _) spec.id).bind fun amount isOver => ?_
  have compared := Operand.over_compare rule.comparison isOver
    (b := .value (.float threshold)) trivial
  exact compared.bind fun o isOver => .ok fun a mem => by
    rw [List.mem_singleton.1 mem]; exact isOver

theorem closed_of_mem_fieldRules {specs : List FieldSpec} (mem : c ∈ compileFieldRules specs) :
    c.Closed := by
  obtain ⟨spec, -, fromRule⟩ := List.mem_flatMap.1 mem
  obtain ⟨rule, -, rfl⟩ := List.mem_map.1 fromRule
  exact closed_fieldRule spec rule

/-! ## Nothing is left open -/

theorem bound_holds : ∀ e ∈ c.bound values, e.eval (c.valuation values) = true := by
  intro e mem
  obtain ⟨⟨name, kind⟩, entry, rfl⟩ := List.mem_map.1 mem
  dsimp only
  rw [← valuation_of_mem entry]
  exact Expr.eval_equals_self kind.sort_ne_text _ _

section Closed

variable (closed : ∀ e ∈ es, e.Over c.Declares)
include closed

theorem declares_of_mem {e : Expr .bool} (mem : e ∈ es ++ c.bound values)
    {x : VariableSort × String} (occurs : x ∈ e.vars) : c.Declares x := by
  rcases List.mem_append.1 mem with own | binds
  · exact closed e own x occurs
  · obtain ⟨⟨name, kind⟩, entry, rfl⟩ := List.mem_map.1 binds
    rw [VariableSort.vars_equals, List.mem_singleton] at occurs
    subst occurs
    exact ⟨kind, entry, rfl⟩

theorem pinnedBy_bound (values : FieldValues) :
    (c.valuation values).PinnedBy (es ++ c.bound values) := by
  intro e mem x occurs
  obtain ⟨s, name⟩ := x
  obtain ⟨kind, entry, same⟩ := declares_of_mem closed mem occurs
  dsimp only at same
  subst same
  refine ⟨kind.sort_ne_text, ?_⟩
  dsimp only
  rw [valuation_of_mem entry]
  exact List.mem_append_right _ (List.mem_map.2 ⟨(name, kind), entry, rfl⟩)

theorem reported_bound {e : Expr .bool} (mem : e ∈ es ++ c.bound values) {x : VariableSort × String}
    (occurs : x ∈ e.vars) : ∃ value, x.1.reported (c.valuation values x.1 x.2) = .ok value := by
  obtain ⟨s, name⟩ := x
  obtain ⟨kind, entry, same⟩ := declares_of_mem closed mem occurs
  dsimp only at same
  subst same
  dsimp only
  rw [valuation_of_mem entry]
  exact kind.reported_exact _

/-- With the variables bound, the answer is the value of the expressions. -/
theorem answerOn_bound (sound : d.Sound) (decides : d.DecidesPinned)
    (nonzero : ∀ e ∈ es, e.NonzeroDivisors (c.valuation values)) (timeout : Timeout) :
    ∃ answer, d.answerOn timeout (es ++ c.bound values) = .ok answer ∧
      answer.verdict = if es.all (·.eval (c.valuation values))
        then .satisfiable else .unsatisfiable := by
  have pinned := pinnedBy_bound closed values
  have nonzero' : ∀ e ∈ es ++ c.bound values, e.NonzeroDivisors (c.valuation values) := by
    refine List.forall_mem_append.2 ⟨nonzero, fun e mem => ?_⟩
    obtain ⟨⟨name, kind⟩, -, rfl⟩ := List.mem_map.1 mem
    exact Expr.nonzeroDivisors_equals _ _ _
  have right := sound timeout.milliseconds (es ++ c.bound values)
  have verdict := right.verdict_pinned pinned (decides _ _ _ pinned nonzero') nonzero'
  have whole : (es ++ c.bound values).all (·.eval (c.valuation values)) =
      es.all (·.eval (c.valuation values)) := by
    rw [List.all_append, List.all_eq_true.2 bound_holds, Bool.and_true]
  have reportable := right.reportable_pinned pinned fun e mem x occurs =>
    reported_bound closed mem occurs
  obtain ⟨answer, answered⟩ := isOk_iff.1 ((Response.isOk_answer _).trans (by rw [reportable]; rfl))
  exact ⟨answer, answered, by rw [Response.verdict_of_answer answered, verdict, whole]⟩

end Closed

end Constraint

end RecordAudit
