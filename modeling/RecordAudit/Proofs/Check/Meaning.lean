import Mathlib.Algebra.Order.Field.Rat
import RecordAudit.Proofs.Check.Direct

/-!
# What constraints of terms mean

A term that is elaborated over the variables of a constraint stands for a value, which depends on
what is read from a record. Each way to build a term has a rule that gives its value from those of
its parts, and a constraint of such terms means a condition: every check of it comes to a verdict,
and the condition decides it.
-/

namespace RecordAudit

open Reading

/-! ## Comparisons -/

/-- The comparison as a relation of ordered values. -/
def Comparison.Holds {α : Type} [LT α] [LE α] (c : Comparison) (a b : α) : Prop :=
  match c with
  | .gt => b < a
  | .lt => a < b
  | .eq => a = b
  | .ne => a ≠ b
  | .ge => b ≤ a
  | .le => a ≤ b

theorem Comparison.allows_iff {α : Type} [LinearOrder α] (c : Comparison) (a b : α) :
    c.allows (if a < b then .lt else if a = b then .eq else .gt) = true ↔ c.Holds a b := by
  rcases lt_trichotomy a b with less | rfl | greater
  · cases c <;> simp [allows, Holds, less, less.le, less.ne, less.not_gt]
  · cases c <;> simp [allows, Holds]
  · cases c <;> simp [allows, Holds, greater, greater.le, greater.ne', greater.not_gt]

theorem Numeric.compare_int_iff {c : Comparison} {a b : Int} : Numeric.compare .int c a b = true ↔
    c.Holds a b :=
  c.allows_iff a b

theorem Numeric.compare_real_iff {c : Comparison} {a b : Rat} : Numeric.compare .real c a b = true ↔
    c.Holds a b :=
  c.allows_iff a b

/-! ## Plain values among numbers -/

/-- A plain value counts as a number where it meets numbers of a sort. -/
structure Value.Counts (v : Value) (n : Numeric) (k : n.Carrier) : Prop where
  literal : Operand.literal n v = .ok k
  met : Operand.meetLiteral (.numeric n) v = .numeric n

namespace Value

variable {v : Value} {n : Numeric} {k : n.Carrier}

theorem isLongInteger_of_lt {i : Int} (small : i.natAbs < 10 ^ 3) : isLongInteger i = false := by
  have few : 3 ≤ Fault.maxIntegerDigits := by decide
  unfold isLongInteger
  generalize Fault.maxIntegerDigits = digits at few
  exact decide_eq_false (Nat.not_le.2 (small.trans_le (Nat.pow_le_pow_right (by decide) few)))

theorem counts_int (n : Numeric) {i : Int} (small : i.natAbs < 10 ^ 3) :
    (Value.int i).Counts n (n.ofInt i) := by
  have fits : (Value.int i).hasLongInteger = false := by
    rw [hasLongInteger, isLongInteger_of_lt small]
  constructor
  · unfold Operand.literal
    rw [fits]
    cases n <;> rfl
  · cases n <;> rfl

theorem counts_float {x : Number.Binary64} {k : Rat} (value : x.decimalValue? = some k) :
    (Value.float x).Counts .real k := by
  refine ⟨?_, rfl⟩
  unfold Operand.literal
  simp only [hasLongInteger, value]
  rfl

theorem decimalValue?_of_literal {x : Number.Binary64} {k : Rat}
    (read : Operand.literal .real (.float x) = .ok k) :
    x.decimalValue? = some k := by
  unfold Operand.literal at read
  simp only [hasLongInteger] at read
  cases value : x.decimalValue? with
  | none =>
    rw [value] at read
    cases read
  | some q =>
    rw [value] at read
    exact congrArg some (Except.ok.inj read)

namespace Counts

variable (counts : v.Counts n k) (e : Expr (.numeric n))
include counts

theorem pair :
    Operand.pair (.expr (.numeric n) e) (.value v) =
      .ok (.numerics n e (.const (s := .numeric n) k)) := by
  have met : Operand.pair (.expr (.numeric n) e) (.value v) =
      Operand.pairIn (Operand.meetLiteral (.numeric n) v) (.expr (.numeric n) e) (.value v) := by
    cases v <;> rfl
  rw [met, counts.met]
  unfold Operand.pairIn Operand.toNumeric
  simp only [counts.literal]
  cases n <;> rfl

/-- Only the absent value is not compared as a number, and it does not count as one. -/
theorem compare (c : Comparison) :
    Operand.compare c (.expr (.numeric n) e) (.value v) =
      .ok (.expr .bool (.compare c e (.const (s := .numeric n) k))) := by
  have compared : Operand.compareInCommon c (.expr (.numeric n) e) (.value v) =
      .ok (.expr .bool (.compare c e (.const (s := .numeric n) k))) := by
    rw [Operand.compareInCommon, counts.pair]
    rfl
  cases v with
  | null => cases n <;> cases counts.literal
  | _ => cases c <;> exact compared

theorem arith (op : ArithOp) :
    Operand.arith op (.expr (.numeric n) e) (.value v) =
      .ok (.expr (.numeric n) (.arith op e (.const (s := .numeric n) k))) := by
  have common : Operand.arithInCommon op (.expr (.numeric n) e) (.value v) =
      .ok (.expr (.numeric n) (.arith op e (.const (s := .numeric n) k))) := by
    rw [Operand.arithInCommon, Operand.numericPair, counts.pair]
    rfl
  cases op <;> exact common

end Counts

end Value

/-! ## Connectives -/

/-- A connective of truth values joins them from left to right. -/
theorem Operand.connective_exprs (name : String) (join : Expr .bool → Expr .bool → Expr .bool)
    (unit : Bool) (first : Expr .bool) (rest : List (Expr .bool)) :
    connective name join unit ((first :: rest).map (Operand.expr .bool)) =
      .ok (.expr .bool (rest.foldl join first)) := by
  have items : connectiveItems ((first :: rest).map (Operand.expr .bool)) =
    .ok ((first :: rest).map (Operand.expr .bool)) := rfl
  have common : commonSort ((first :: rest).map (Operand.expr .bool)) = .ok .bool := by
    have sorts : ((first :: rest).map (Operand.expr .bool)).filterMap sort? =
        (first :: rest).map fun _ => VariableSort.bool := by
      rw [List.filterMap_map]
      exact congrFun List.filterMap_eq_map _
    have joined : ∀ es : List (Expr .bool), (es.map fun _ => VariableSort.bool).foldlM joinSorts
        .bool = .ok .bool := by
      intro es
      induction es with
      | nil => rfl
      | cons e es ih => exact ih
    rw [commonSort, sorts]
    exact joined rest
  have truths : ∀ es : List (Expr .bool), (es.map (Operand.expr .bool)).mapM toBool = .ok es := by
    intro es
    induction es with
    | nil => rfl
    | cons e es ih => rw [List.map_cons, List.mapM_cons, ih]; rfl
  rw [connective, items, ok_bind, common]
  dsimp only [ok_bind]
  rw [truths]
  rfl

namespace Expr

theorem eval_foldl_and (v : Valuation) (first : Expr .bool) (rest : List (Expr .bool)) :
    (rest.foldl .and first).eval v = (first.eval v && rest.all (·.eval v)) := by
  induction rest generalizing first with
  | nil => simp
  | cons e rest ih => rw [List.foldl_cons, ih, List.all_cons, eval, Bool.and_assoc]

theorem nonzeroDivisors_foldl {v : Valuation} {join : Expr .bool → Expr .bool → Expr .bool}
    (joins : ∀ a b, a.NonzeroDivisors v → b.NonzeroDivisors v → (join a b).NonzeroDivisors v)
    {first : Expr .bool} {rest : List (Expr .bool)}
    (nonzero : ∀ e ∈ first :: rest, e.NonzeroDivisors v) :
    (rest.foldl join first).NonzeroDivisors v := by
  induction rest generalizing first with
  | nil => exact nonzero first List.mem_cons_self
  | cons e rest ih =>
    obtain ⟨ofFirst, others⟩ := List.forall_mem_cons.1 nonzero
    obtain ⟨ofNext, others⟩ := List.forall_mem_cons.1 others
    exact ih (List.forall_mem_cons.2 ⟨joins first e ofFirst ofNext, others⟩)

theorem eval_foldl_or (v : Valuation) (first : Expr .bool) (rest : List (Expr .bool)) :
    (rest.foldl .or first).eval v = (first.eval v || rest.any (·.eval v)) := by
  induction rest generalizing first with
  | nil => simp
  | cons e rest ih => rw [List.foldl_cons, ih, List.any_cons, eval, Bool.or_assoc]

end Expr

/-! ## Terms -/

namespace Term

/-- Over the variables of a constraint the term stands for a value of a sort, as a function of what
is read, and divides nothing by zero. -/
def Denotes (c : Constraint) (t : Term) {s : VariableSort} (value : FieldValues → s.Carrier) :
    Prop :=
  ∃ e : Expr s, t.elaborate (declareAll c.kinds) = .ok (.expr s e) ∧
    ∀ fields, e.NonzeroDivisors (c.valuation fields) ∧ e.eval (c.valuation fields) = value fields

def DenoteAll (c : Constraint) (ts : List Term) (values : List (FieldValues → Bool)) : Prop :=
  ∃ es : List (Expr .bool), elaborateAll (declareAll c.kinds) ts =
    .ok (es.map (Operand.expr .bool)) ∧
      ∀ fields, (∀ e ∈ es, e.NonzeroDivisors (c.valuation fields)) ∧
      es.map (·.eval (c.valuation fields)) = values.map (· fields)

variable {c : Constraint} {a b : Term} {ts : List Term} {n : Numeric}
  {x y : FieldValues → n.Carrier} {p q : FieldValues → Bool} {values : List (FieldValues → Bool)}

theorem elaborate_variable {name : String} {kind : Kind} (mem : (name, kind) ∈ c.kinds.entries) :
    (Term.variable name).elaborate (declareAll c.kinds) =
      .ok (.expr kind.sort (.var kind.sort name)) := by
  have declared : (declareAll c.kinds).get? name = some (.expr kind.sort (.var kind.sort name)) :=
    Assoc.get?_eq_some_iff.2 (List.mem_map.2 ⟨(name, kind), mem, rfl⟩)
  change Declared.lookup _ name = _
  rw [Declared.lookup, declared]

theorem elaborate_compareLiteral {declared : Declared} (o : Comparison) {u : Value} {k : n.Carrier}
    {e : Expr (.numeric n)} (elaborated : a.elaborate declared = .ok (.expr (.numeric n) e))
    (counts : u.Counts n k) :
    (Term.compare o a (.literal u)).elaborate declared =
      .ok (.expr .bool (.compare o e (.const (s := .numeric n) k))) := by
  change (do Operand.compare o (← a.elaborate declared) (.value u)) = _
  rw [elaborated]
  exact counts.compare e o

theorem denotes_variable {name : String} {kind : Kind} (mem : (name, kind) ∈ c.kinds.entries) :
    (Term.variable name).Denotes c (s := kind.sort) fun fields => kind.exact (fields.raw? name) :=
  ⟨.var kind.sort name, elaborate_variable mem, fun _ => ⟨trivial, Constraint.valuation_of_mem mem⟩⟩

namespace Denotes

theorem compare (o : Comparison) (ha : a.Denotes c (s := .numeric n) x)
    (hb : b.Denotes c (s := .numeric n) y) :
    (Term.compare o a b).Denotes c (s := .bool) fun fields =>
      n.compare o (x fields) (y fields) := by
  obtain ⟨d, elaborated, values⟩ := ha
  obtain ⟨e, elaborated', values'⟩ := hb
  refine ⟨.compare o d e, ?_, fun fields => ⟨⟨(values fields).1, (values' fields).1⟩, ?_⟩⟩
  · change (do Operand.compare o (← a.elaborate _) (← b.elaborate _)) = _
    rw [elaborated, elaborated']
    cases n <;> cases o <;> rfl
  · rw [Expr.eval, (values fields).2, (values' fields).2]

theorem compareLiteral (o : Comparison) {u : Value} {k : n.Carrier}
    (ha : a.Denotes c (s := .numeric n) x) (counts : u.Counts n k) :
    (Term.compare o a (.literal u)).Denotes c (s := .bool) fun fields =>
      n.compare o (x fields) k := by
  obtain ⟨d, elaborated, values⟩ := ha
  refine ⟨.compare o d (.const k), elaborate_compareLiteral o elaborated counts,
    fun fields => ⟨⟨(values fields).1, trivial⟩, ?_⟩⟩
  rw [Expr.eval, (values fields).2]
  rfl

/-- Every operation but division. -/
theorem arith (op : ArithOp) (whole : op ≠ .div) (ha : a.Denotes c (s := .numeric n) x)
    (hb : b.Denotes c (s := .numeric n) y) :
    (Term.arith op a b).Denotes c (s := .numeric n) fun fields =>
      n.apply op (x fields) (y fields) := by
  obtain ⟨d, elaborated, values⟩ := ha
  obtain ⟨e, elaborated', values'⟩ := hb
  refine ⟨.arith op d e, ?_, fun fields =>
    ⟨⟨(values fields).1, (values' fields).1, fun division => absurd division whole⟩, ?_⟩⟩
  · change (do Operand.arith op (← a.elaborate _) (← b.elaborate _)) = _
    rw [elaborated, elaborated']
    cases n <;> cases op <;> rfl
  · rw [Expr.eval, (values fields).2, (values' fields).2]

/-- Every operation with a number, but division by zero. -/
theorem arithLiteral (op : ArithOp) {u : Value} {k : n.Carrier}
    (ha : a.Denotes c (s := .numeric n) x) (counts : u.Counts n k)
    (divides : op = .div → k ≠ n.ofInt 0) :
    (Term.arith op a (.literal u)).Denotes c (s := .numeric n) fun fields =>
      n.apply op (x fields) k := by
  obtain ⟨d, elaborated, values⟩ := ha
  refine ⟨.arith op d (.const k), ?_, fun fields => ⟨⟨(values fields).1, trivial, divides⟩, ?_⟩⟩
  · change (do Operand.arith op (← a.elaborate _) (.value u)) = _
    rw [elaborated]
    exact counts.arith d op
  · rw [Expr.eval, (values fields).2]
    rfl

theorem toReal {i : FieldValues → Int} (ha : a.Denotes c (s := .int) i) :
    (Term.toReal a).Denotes c (s := .real) fun fields => (i fields : Rat) := by
  obtain ⟨d, elaborated, values⟩ := ha
  refine ⟨.toReal d, ?_, fun fields => ⟨(values fields).1, ?_⟩⟩
  · change (do (← a.elaborate _).toReal) = _
    rw [elaborated]
    rfl
  · rw [Expr.eval, (values fields).2]
    rfl

theorem implies (ha : a.Denotes c (s := .bool) p) (hb : b.Denotes c (s := .bool) q) :
    (Term.implies a b).Denotes c (s := .bool) fun fields => !p fields || q fields := by
  obtain ⟨d, elaborated, values⟩ := ha
  obtain ⟨e, elaborated', values'⟩ := hb
  refine ⟨.implies d e, ?_, fun fields => ⟨⟨(values fields).1, (values' fields).1⟩, ?_⟩⟩
  · change (do (← a.elaborate _).implies (← b.elaborate _)) = _
    rw [elaborated, elaborated']
    rfl
  · rw [Expr.eval, (values fields).2, (values' fields).2]

theorem not (ha : a.Denotes c (s := .bool) p) :
    (Term.not a).Denotes c (s := .bool) fun fields => !p fields := by
  obtain ⟨d, elaborated, values⟩ := ha
  refine ⟨.not d, ?_, fun fields => ⟨(values fields).1, ?_⟩⟩
  · change (do (← a.elaborate _).not) = _
    rw [elaborated]
    rfl
  · rw [Expr.eval, (values fields).2]

theorem cons (first : a.Denotes c (s := .bool) p) (rest : DenoteAll c ts values) :
    DenoteAll c (a :: ts) (p :: values) := by
  obtain ⟨e, elaborated, value⟩ := first
  obtain ⟨es, elaborated', values⟩ := rest
  refine ⟨e :: es, ?_, fun fields =>
    ⟨List.forall_mem_cons.2 ⟨(value fields).1, (values fields).1⟩, ?_⟩⟩
  · change (do return (← a.elaborate _) :: (← elaborateAll _ ts)) = _
    rw [elaborated, elaborated']
    rfl
  · rw [List.map_cons, List.map_cons, (value fields).2, (values fields).2]

end Denotes

namespace DenoteAll

theorem nil : DenoteAll c [] [] := ⟨[], rfl, fun _ => ⟨nofun, rfl⟩⟩

theorem all_eval {es : List (Expr .bool)} {v : Valuation} {fields : FieldValues}
    (evals : es.map (·.eval v) = values.map (· fields)) :
    es.all (·.eval v) = values.all (· fields) := by
  have all := congrArg (List.all · id) evals
  rwa [List.all_map, List.all_map] at all

theorem any_eval {es : List (Expr .bool)} {v : Valuation} {fields : FieldValues}
    (evals : es.map (·.eval v) = values.map (· fields)) :
    es.any (·.eval v) = values.any (· fields) := by
  have any := congrArg (List.any · id) evals
  rwa [List.any_map, List.any_map] at any

theorem exists_cons (h : DenoteAll c ts (p :: values)) :
    ∃ first rest, elaborateAll (declareAll c.kinds) ts =
      .ok ((first :: rest).map (Operand.expr .bool)) ∧
        ∀ fields, (∀ e ∈ first :: rest, e.NonzeroDivisors (c.valuation fields)) ∧
        first.eval (c.valuation fields) = p fields ∧
        rest.map (·.eval (c.valuation fields)) = values.map (· fields) := by
  obtain ⟨es, elaborated, evals⟩ := h
  cases es with
  | nil => simpa using evals .empty
  | cons first rest =>
    exact ⟨first, rest, elaborated, fun fields =>
      ⟨(evals fields).1, List.cons.inj (evals fields).2⟩⟩

theorem and (h : DenoteAll c ts (p :: values)) :
    (Term.and ts).Denotes c (s := .bool) fun fields => p fields && values.all (· fields) := by
  obtain ⟨first, rest, elaborated, evals⟩ := h.exists_cons
  refine ⟨rest.foldl .and first, ?_, fun fields =>
    ⟨Expr.nonzeroDivisors_foldl (fun _ _ => And.intro) (evals fields).1, ?_⟩⟩
  · change (do Operand.conj (← elaborateAll _ ts)) = _
    rw [elaborated]
    exact Operand.connective_exprs "and" .and true first rest
  · rw [Expr.eval_foldl_and, (evals fields).2.1, all_eval (evals fields).2.2]

theorem or (h : DenoteAll c ts (p :: values)) :
    (Term.or ts).Denotes c (s := .bool) fun fields => p fields || values.any (· fields) := by
  obtain ⟨first, rest, elaborated, evals⟩ := h.exists_cons
  refine ⟨rest.foldl .or first, ?_, fun fields =>
    ⟨Expr.nonzeroDivisors_foldl (fun _ _ => And.intro) (evals fields).1, ?_⟩⟩
  · change (do Operand.disj (← elaborateAll _ ts)) = _
    rw [elaborated]
    exact Operand.connective_exprs "or" .or false first rest
  · rw [Expr.eval_foldl_or, (evals fields).2.1, any_eval (evals fields).2.2]

end DenoteAll

end Term

/-! ## Constraints -/

theorem expressionsOf_exprs (es : List (Expr .bool)) :
    expressionsOf (es.map (Operand.expr .bool)) = .ok es := by
  induction es with
  | nil => rfl
  | cons e rest ih => rw [List.map_cons, expressionsOf_cons, ih]; rfl

/-- The outcome that a condition decides. -/
def Outcome.decidedBy (condition : Prop) [Decidable condition] : Outcome :=
  if condition then .satisfied else .violated

theorem Outcome.decidedBy_eq_satisfied_iff {condition : Prop} [Decidable condition] :
    Outcome.decidedBy condition = .satisfied ↔ condition := by
  unfold decidedBy
  split <;> simp_all

theorem Outcome.decidedBy_eq_violated_iff {condition : Prop} [Decidable condition] :
    Outcome.decidedBy condition = .violated ↔ ¬condition := by
  unfold decidedBy
  split <;> simp_all

namespace Constraint

variable {c : Constraint} {condition : FieldValues → Prop} {d : Decider}

/-- The constraint means a condition on what is read: its assertions can be evaluated, nothing is
divided by zero, and they are true where the condition holds. -/
structure Means (c : Constraint) (condition : FieldValues → Prop) : Prop where
  closed : c.Closed
  nonzero : ∀ fields, c.NonzeroDivisors fields
  evaluated : ∃ es, c.expressions = .ok es ∧
    ∀ fields, es.all (·.eval (c.valuation fields)) = true ↔ condition fields

/-- Then every check comes to a verdict, and the condition decides it, unless a witness is asked for
and the model that is found for it cannot be reported. -/
theorem Means.outcome (means : c.Means condition) (sound : d.Sound) (decides : d.DecidesPinned)
    {witnessed : Bool} {timeout : Timeout}
    (reportable : witnessed = true → c.unreportable d timeout = false) (fields : FieldValues)
    [Decidable (condition fields)] :
    (c.concluded d.judge witnessed timeout fields).outcome = .decidedBy (condition fields) := by
  obtain ⟨es, expressed, iff⟩ := means.evaluated
  have unspoiled : (witnessed && c.direct fields == .violated && c.unreportable d timeout) =
      false := by
    cases witnessed with
    | false => rfl
    | true => rw [reportable rfl, Bool.and_false]
  rw [outcome_concluded sound decides means.closed (means.nonzero fields), unspoiled,
    direct, expressed]
  simp only [iff, Outcome.decidedBy]
  rfl

theorem expressions_ofTerms {terms : List Term} {es : List (Expr .bool)}
    (built : c.build = fun declared => do return .many (← Term.elaborateAll declared terms))
    (elaborated : Term.elaborateAll (declareAll c.kinds) terms =
      .ok (es.map (Operand.expr .bool))) :
    c.expressions = .ok es := by
  rw [expressions, assertions, built]
  simp only [elaborated, ok_bind]
  exact expressionsOf_exprs es

/-- Terms that stand for truth values give a constraint the meaning that all of them are true. -/
theorem Means.ofTerms {terms : List Term} {values : List (FieldValues → Bool)}
    (built : c.build = fun declared => do return .many (← Term.elaborateAll declared terms))
    (denote : Term.DenoteAll c terms values) (iff : ∀ fields, values.all (· fields) = true ↔
      condition fields) :
    c.Means condition := by
  obtain ⟨es, elaborated, evals⟩ := denote
  have expressed := expressions_ofTerms built elaborated
  refine ⟨closed_of_build ?_, fun fields es' expressed' => ?_, es, expressed, fun fields => ?_⟩
  · rw [built]
    exact (Term.over_elaborateAll (declared_over c) terms).bind fun _ isOver => .ok isOver
  · obtain rfl := Except.ok.inj (expressed.symm.trans expressed')
    exact (evals fields).1
  · rw [← iff, Term.DenoteAll.all_eval (evals fields).2]

end Constraint

end RecordAudit
