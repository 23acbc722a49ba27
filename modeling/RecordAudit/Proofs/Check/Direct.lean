import RecordAudit.Proofs.Check.Bound
import RecordAudit.Proofs.Check.Isolation

/-!
# Checking is evaluating

The outcome of a check is that of evaluating the constraint's assertions at the values that are read
from the record. There is one exception: when a witness is asked for, a violation whose witness
cannot be reported ends as a fault.
-/

namespace RecordAudit

open Reading

namespace Constraint

/-- The outcome of evaluating the constraint's assertions. -/
def direct (c : Constraint) (values : FieldValues) : Outcome :=
  match c.expressions with
  | .error _ => .error
  | .ok es => if es.all (·.eval (c.valuation values)) then .satisfied else .violated

/-- Whether the solver has a model of the constraint's assertions that cannot be reported. -/
def unreportable (d : Decider) (timeout : Timeout) (c : Constraint) : Bool :=
  match c.expressions with
  | .error _ => false
  | .ok es => (d timeout.milliseconds es).unreportable

/-- No divisor in the constraint's assertions is zero at the values that are read. -/
def NonzeroDivisors (c : Constraint) (values : FieldValues) : Prop :=
  ∀ es, c.expressions = .ok es → ∀ e ∈ es, e.NonzeroDivisors (c.valuation values)

variable {c : Constraint} {values : FieldValues} {es : List (Expr .bool)} {d : Decider}

/-! ## Rules on fields -/

/-- An amount that is compared with a number is compared with the number's decimal, if it has
one. -/
theorem compare_float (c : Comparison) (e : Expr .real) (x : Number.Binary64) :
    Operand.compare c (.expr .real e) (.value (.float x)) =
      (Operand.literal .real (.float x)).map fun limit =>
        .expr .bool (.compare (n := .real) c e (.const (s := .real) limit)) := by
  have paired : Operand.pair (.expr .real e) (.value (.float x)) =
      (Operand.literal .real (.float x)).map fun limit =>
        .numerics .real e (.const (s := .real) limit) := by
    change (do let b ← (do return .const (s := .real) (← Operand.literal .real (.float x)))
               return .numerics .real e b : Except Fault Operand.Pair) = _
    cases Operand.literal .real (.float x) <;> rfl
  have compared : Operand.compareInCommon c (.expr .real e) (.value (.float x)) =
      (Operand.literal .real (.float x)).map fun limit =>
        .expr .bool (.compare (n := .real) c e (.const (s := .real) limit)) := by
    rw [Operand.compareInCommon, paired]
    cases Operand.literal .real (.float x) <;> rfl
  cases c <;> exact compared

theorem expressions_fieldRule (spec : FieldSpec) (rule : FieldRule) :
    (spec.constraint rule).expressions = do
      let threshold ← readThreshold rule.threshold
      let limit ← Operand.literal .real (.float threshold)
      return [.compare (n := .real) rule.comparison (.var .real spec.id)
        (.const (s := .real) limit)] := by
  have declared : (declareAll (spec.constraint rule).kinds).get? spec.id =
      some (.expr .real (.var .real spec.id)) :=
    Assoc.get?_eq_some_iff.2 (List.mem_singleton.2 rfl)
  have built : (spec.constraint rule).build (declareAll (spec.constraint rule).kinds) = do
      let threshold ← readThreshold rule.threshold
      return .many [← Operand.compare rule.comparison (.expr .real (.var .real spec.id))
          (.value (.float threshold))] := by
    simp only [FieldSpec.constraint] at declared ⊢
    simp only [Declared.lookup, declared, ok_bind]
  rw [expressions, assertions, built]
  cases readThreshold rule.threshold with
  | error fault => rfl
  | ok threshold =>
    simp only [ok_bind, compare_float]
    cases Operand.literal .real (.float threshold) <;> rfl

theorem nonzeroDivisors_fieldRule (spec : FieldSpec) (rule : FieldRule) (values : FieldValues) :
    (spec.constraint rule).NonzeroDivisors values := by
  intro es expressed e mem
  rw [expressions_fieldRule] at expressed
  obtain ⟨threshold, -, expressed⟩ := except_bind_eq_ok_iff.1 expressed
  obtain ⟨limit, -, same⟩ := except_bind_eq_ok_iff.1 expressed
  cases same
  rw [List.mem_singleton.1 mem]
  exact ⟨trivial, trivial⟩

theorem nonzeroDivisors_of_mem_fieldRules {specs : List FieldSpec}
    (mem : c ∈ compileFieldRules specs) (values : FieldValues) : c.NonzeroDivisors values := by
  obtain ⟨spec, -, fromRule⟩ := List.mem_flatMap.1 mem
  obtain ⟨rule, -, rfl⟩ := List.mem_map.1 fromRule
  exact nonzeroDivisors_fieldRule spec rule values

/-! ## Outcomes -/

theorem outcome_finding (observed : Observed) {answer : Answer} {holds : Bool}
    (verdict : answer.verdict = if holds then .satisfiable else .unsatisfiable)
    (witness : Option Model) :
    (c.finding observed answer witness).outcome = if holds then .satisfied else .violated := by
  cases holds <;> simp [finding, verdict]

/-- The check of the constraint's assertions alone fails when the model that the solver has cannot
be reported. -/
theorem isOk_answerOn (expressed : c.expressions = .ok es) (timeout : Timeout) :
    (d.answerOn timeout es).isOk = !c.unreportable d timeout := by
  rw [unreportable, expressed]
  exact Response.isOk_answer _

theorem examined_eq (d : Decider) (c : Constraint) (witnessed : Bool) (timeout : Timeout)
    (values : FieldValues) :
    c.examined d.judge witnessed timeout values = do
      let es ← c.expressions
      let answer ← d.answerOn timeout (es ++ c.bound values)
      let witness ←
        if witnessed && answer.verdict == .unsatisfiable then
          (d.answerOn timeout es).map fun answer =>
            if answer.verdict == .satisfiable then answer.model.map (·.restrict c.fields) else none
        else pure none
      return (answer, witness) := by
  unfold examined expressions
  cases c.assertions with
  | error f => rfl
  | ok as =>
    simp only [ok_bind]
    rw [(forM_takes d as).1]
    cases own : expressionsOf as with
    | error f => rfl
    | ok es =>
      have asserted := (forM_takes d as).2 es own
      have alone : c.foundWitness d.judge timeout as = (d.answerOn timeout es).map fun answer =>
          if answer.verdict == .satisfiable then answer.model.map (·.restrict c.fields)
          else none := by
        rw [← asserted]
        rfl
      rw [answered_eq asserted, alone]
      rfl

/-- A result of the two checks comes from an answer to the first, and after a contradiction from one
to the second if a witness is asked for. -/
theorem answers_of_examined {witnessed : Bool} {timeout : Timeout} {answer : Answer}
    {witness : Option Model}
    (examined : c.examined d.judge witnessed timeout values = .ok (answer, witness)) :
    ∃ es, c.expressions = .ok es ∧ d.answerOn timeout (es ++ c.bound values) = .ok answer ∧
      (witnessed = true ∧ answer.verdict = .unsatisfiable →
        ∃ second, d.answerOn timeout es = .ok second) := by
  rw [examined_eq] at examined
  obtain ⟨es, expressed, examined⟩ := except_bind_eq_ok_iff.1 examined
  obtain ⟨first, answered, examined⟩ := except_bind_eq_ok_iff.1 examined
  dsimp only at examined
  split at examined
  · obtain ⟨_, found, same⟩ := except_bind_eq_ok_iff.1 examined
    cases same
    obtain ⟨second, again, -⟩ := except_map_eq_ok_iff.1 found
    exact ⟨es, expressed, answered, fun _ => ⟨second, again⟩⟩
  · next once =>
    cases examined
    exact ⟨es, expressed, answered, fun asked => absurd (by simpa using asked) once⟩

/-- The outcome is that of evaluating, unless a witness of a violation cannot be reported. -/
theorem outcome_concluded (sound : d.Sound) (decides : d.DecidesPinned) (closed : c.Closed)
    (nonzero : c.NonzeroDivisors values) (witnessed : Bool) (timeout : Timeout) :
    (c.concluded d.judge witnessed timeout values).outcome =
      if witnessed && c.direct values == .violated && c.unreportable d timeout then .error
        else c.direct values := by
  unfold concluded
  rw [examined_eq]
  cases expressed : c.expressions with
  | error f => simp [direct, expressed, failedFinding]
  | ok es =>
    obtain ⟨answer, answered, verdict⟩ :=
      answerOn_bound (closed es expressed) sound decides (nonzero es expressed) timeout
    have own := isOk_answerOn (d := d) expressed timeout
    have evaluated : c.direct values = if es.all (·.eval (c.valuation values))
        then .satisfied else .violated := by
      rw [direct, expressed]
    rw [ok_bind, answered, ok_bind, evaluated]
    generalize es.all (·.eval (c.valuation values)) = holds at verdict
    have outcome := outcome_finding (c := c) (c.observe values) verdict
    by_cases again : (witnessed && !holds) = true
    · obtain ⟨rfl, rfl⟩ : witnessed = true ∧ holds = false := by simpa using again
      have violated : answer.verdict = .unsatisfiable := verdict
      rw [violated]
      cases found : d.answerOn timeout es with
      | error f =>
        have unreportable : c.unreportable d timeout = true := by
          simpa [found, Except.isOk, Except.toBool] using own
        simp [unreportable, failedFinding, Except.map]
      | ok other =>
        have reportable : c.unreportable d timeout = false := by
          simpa [found, Except.isOk, Except.toBool] using own
        simpa [reportable, Except.map] using outcome _
    · have once : (witnessed && answer.verdict == .unsatisfiable) = false := by
        rw [verdict]
        cases holds <;> simp_all
      have unwitnessed : (witnessed && (if holds then Outcome.satisfied else .violated) ==
          .violated) = false := by
        cases holds <;> simp_all
      rw [once, unwitnessed]
      exact outcome none

/-! ## Other ways to build the same -/

def building (c : Constraint) (build : Declared → Except Fault Built) : Constraint :=
  { c with build := build }

theorem concluded_building {j : Judge} {build build' : Declared → Except Fault Built}
    (same : (c.building build).assertions = (c.building build').assertions) (witnessed : Bool)
    (timeout : Timeout) (values : FieldValues) :
    (c.building build).concluded j witnessed timeout values =
      (c.building build').concluded j witnessed timeout values := by
  unfold concluded examined
  rw [same]
  rfl

theorem valuation_congr {c' : Constraint} (kinds : c'.kinds = c.kinds) (values : FieldValues) :
    c'.valuation values = c.valuation values := by
  unfold Constraint.valuation
  rw [kinds]

section Permuted

variable {c' : Constraint} {as as' : List Operand} (perm : as.Perm as')
  (built : c.assertions = .ok as) (built' : c'.assertions = .ok as') (kinds : c'.kinds = c.kinds)
include perm built built'

theorem exists_expressions_perm {es' : List (Expr .bool)} (expressed : c'.expressions = .ok es') :
    ∃ es, c.expressions = .ok es ∧ es.Perm es' := by
  rw [expressions, built'] at expressed
  obtain ⟨es, own, permuted⟩ := expressionsOf_perm perm.symm expressed
  refine ⟨es, ?_, permuted.symm⟩
  rw [expressions, built]
  exact own

include kinds

/-- Permuted assertions are all true or not all true together. -/
theorem direct_perm (values : FieldValues) : c'.direct values = c.direct values := by
  unfold direct
  rw [valuation_congr kinds]
  cases own' : c'.expressions with
  | ok es' =>
    obtain ⟨es, own, permuted⟩ := exists_expressions_perm perm built built' own'
    rw [own]
    dsimp only
    rw [permuted.all_eq]
  | error f' =>
    cases own : c.expressions with
    | error f => rfl
    | ok es =>
      obtain ⟨es', own'', -⟩ := exists_expressions_perm perm.symm built' built own
      cases own'.symm.trans own''

theorem closed_perm (closed : c.Closed) : c'.Closed := by
  intro es' expressed' e mem x occurs
  obtain ⟨es, expressed, permuted⟩ := exists_expressions_perm perm built built' expressed'
  unfold Declares
  rw [kinds]
  exact closed es expressed e (permuted.mem_iff.2 mem) x occurs

theorem nonzeroDivisors_perm (nonzero : c.NonzeroDivisors values) : c'.NonzeroDivisors values := by
  intro es' expressed' e mem
  obtain ⟨es, expressed, permuted⟩ := exists_expressions_perm perm built built' expressed'
  rw [valuation_congr kinds]
  exact nonzero es expressed e (permuted.mem_iff.2 mem)

end Permuted

end Constraint

/-- The outcomes of a check are those of evaluating the constraints' assertions at the values that
are read, if the solver is sound and decides assertions that set every variable equal to a value: a
constraint is satisfied when all of them are true, violated when one is false, and a fault when one
cannot be built or added. Nothing may be divided by zero. Only a violation for which a witness is
asked ends as a fault when the solver's model cannot be reported. One expression counts as a list of
one, and the order of assertions does not matter but for that model. -/
theorem checking_is_evaluating {σ : Type} {m : Surroundings σ} {d : Decider} {clean : σ → Prop}
    (keeps : m.Keeps d.judge.replies clean) (sound : d.Sound) (decides : d.DecidesPinned)
    {w : World σ} (rest : w.AtRest clean) (t : TaskId) (settings : SolverSettings)
    (timeout : Timeout) :
    let bound : Timeout := some (timeout.getD settings.timeout)
    let outcomes := fun (r : Record) (cs : List Constraint) (specs : List FieldSpec) =>
      (w.checkAlone m t settings timeout r cs specs).1.map (·.map (List.map (·.outcome)))
    (∀ r cs specs, (∀ c ∈ cs, c.Closed) →
        (∀ c ∈ cs, ∀ values, r.fieldValues = .ok values → c.NonzeroDivisors values) →
        outcomes r cs specs = some (r.onTexts fun values =>
          (cs ++ compileFieldRules specs).map fun c =>
            if settings.witnessOnViolation && c.direct values == .violated &&
                c.unreportable d bound then .error
            else c.direct values)) ∧
      (∀ (r : Record) (c : Constraint)
          (single : Declared → Except Fault ((s : VariableSort) × Expr s)),
        outcomes r [c.building fun declared => do
            let e ← single declared
            return .one (.expr e.1 e.2)] [] =
          outcomes r [c.building fun declared => do
            let e ← single declared
            return .many [.expr e.1 e.2]] []) ∧
      ∀ (c c' : Constraint) (items items' : List Operand), c.Closed → c'.kinds = c.kinds →
        c.build (declareAll c.kinds) = .ok (.many items) →
        c'.build (declareAll c'.kinds) = .ok (.many items') → items.Perm items' →
        ∀ r values, r.fieldValues = .ok values → c.NonzeroDivisors values →
          c'.direct values = c.direct values ∧
            (outcomes r [c'] [] = outcomes r [c] [] ↔
              (settings.witnessOnViolation && c.direct values == .violated) = true →
                c'.unreportable d bound = c.unreportable d bound) := by
  intro bound outcomes
  have findings : ∀ r cs specs, outcomes r cs specs = some (r.onTexts fun values =>
      (cs ++ compileFieldRules specs).map fun c =>
          (d.judge.finding settings timeout values c).outcome) := by
    intro r cs specs
    have checked := World.checkAlone_eq keeps rest t settings timeout r cs specs
    change Option.map _ (w.checkAlone _ _ _ _ _ _ _).1 = _
    rw [checked.1, Option.map_some, Record.map_onTexts]
    simp only [List.map_map]
    rfl
  have evaluated : ∀ (c : Constraint) values, c.Closed → c.NonzeroDivisors values →
      (d.judge.finding settings timeout values c).outcome =
        if settings.witnessOnViolation && c.direct values == .violated &&
          c.unreportable d bound then .error
        else c.direct values :=
    fun c values closed nonzero => Constraint.outcome_concluded sound decides closed nonzero _ _
  refine ⟨fun r cs specs closed nonzero => ?_, fun r c single => ?_,
    fun c c' items items' closed kinds built built' perm r values flat nonzero => ?_⟩
  · rw [findings]
    cases flat : r.fieldValues with
    | error fault => rw [Record.onTexts, Record.onTexts, flat]; rfl
    | ok values =>
      rw [Record.onTexts_of_ok flat, Record.onTexts_of_ok flat]
      refine congrArg some (congrArg Except.ok (List.map_congr_left fun c mem => ?_))
      rcases List.mem_append.1 mem with own | compiled
      · exact evaluated c values (closed c own) (nonzero c own values flat)
      · exact evaluated c values (Constraint.closed_of_mem_fieldRules compiled)
          (Constraint.nonzeroDivisors_of_mem_fieldRules compiled values)
  · have same : (c.building fun declared => do
          let e ← single declared
          return .one (.expr e.1 e.2)).assertions =
        (c.building fun declared => do
          let e ← single declared
          return .many [.expr e.1 e.2]).assertions := by
      unfold Constraint.assertions Constraint.building
      dsimp only
      cases single (declareAll c.kinds) <;> rfl
    have finding := fun values => Constraint.concluded_building (j := d.judge) same
      settings.witnessOnViolation bound values
    rw [findings, findings]
    refine congrArg (fun f => some (r.onTexts f)) (funext fun values => ?_)
    exact congrArg (fun f : ConstraintFinding => [f.outcome]) (finding values)
  · have assertions : c.assertions = .ok items := by rw [Constraint.assertions, built]; rfl
    have assertions' : c'.assertions = .ok items' := by rw [Constraint.assertions, built']; rfl
    have same := Constraint.direct_perm perm assertions assertions' kinds values
    have closed' := Constraint.closed_perm perm assertions assertions' kinds closed
    have nonzero' := Constraint.nonzeroDivisors_perm perm assertions assertions' kinds nonzero
    have one : ∀ c : Constraint, c.Closed → c.NonzeroDivisors values → outcomes r [c] [] = some (.ok
        [if settings.witnessOnViolation && c.direct values == .violated &&
          c.unreportable d bound then .error
          else c.direct values]) := fun c closed nonzero => by
      rw [findings, Record.onTexts_of_ok flat, ← evaluated c values closed nonzero]
      rfl
    refine ⟨same, ?_⟩
    rw [one c closed nonzero, one c' closed' nonzero', same]
    cases again : settings.witnessOnViolation && c.direct values == .violated with
    | false => simp
    | true =>
      have violated : c.direct values = .violated := by simp_all
      rw [violated]
      cases c.unreportable d bound <;> cases c'.unreportable d bound <;> simp

/-- An absent amount that has to be beyond the floating-point numbers: a violation, and a fault when
a witness is asked for. -/
theorem checking_is_evaluating_too_large :
    let tooLarge : Expr .bool := VariableSort.real.equals "x" (10 ^ 400 : Rat)
    let c : Constraint :=
      ⟨"c", "C", "c holds", .error, .ofList [("x", .amount)], fun _ =>
        .ok (.one (.expr .bool tooLarge))⟩
    let outcomes := fun witnessed : Bool =>
      ((World.empty : World AssertionStack).checkAlone (.fresh AssertionStack.backend .empty false)
        0 ⟨5000, by decide, witnessed⟩ none .empty [c] []).1.map (·.map (List.map (·.outcome)))
    outcomes false = some (.ok [.violated]) ∧ outcomes true = some (.ok [.error]) := by
  intro tooLarge c outcomes
  have declared : ("x", Kind.amount) ∈ c.kinds.entries := List.mem_singleton.2 rfl
  have expressed : c.expressions = .ok [tooLarge] := rfl
  have closed : c.Closed := Constraint.closed_of_build (.ok fun x mem => by
    rw [List.mem_singleton.1 mem]
    exact ⟨.amount, declared, rfl⟩)
  have nonzero : ∀ values, c.NonzeroDivisors values := fun values es same e mem => by
    obtain rfl := Except.ok.inj (expressed.symm.trans same)
    rw [List.mem_singleton.1 mem]
    exact Expr.nonzeroDivisors_equals _ _ _
  have direct : c.direct .empty = .violated := by
    have absent : c.valuation .empty .real "x" = (0 : Rat) :=
      (Constraint.valuation_of_mem declared).trans Kind.exact_amount_none
    have fails : tooLarge.eval (c.valuation .empty) = false := by
      rw [Bool.eq_false_iff]
      intro holds
      have large := Expr.pin?_sound (Expr.pin?_equals (s := .real) nofun "x" (10 ^ 400 : Rat)) holds
      rw [absent] at large
      exact pow_ne_zero 400 (by decide) large.symm
    rw [Constraint.direct, expressed]
    simp [fails]
  have unreportable : c.unreportable AssertionStack.decider (some 5000) = true := by
    rw [Constraint.unreportable, expressed]
    exact Decider.unreportable_equals (s := .real) AssertionStack.sound_decider
      AssertionStack.decidesPinned_decider nofun "x" VariableSort.isOk_reported_ten_pow _
  have checked := fun witnessed : Bool =>
    (checking_is_evaluating (AssertionStack.keeps_fresh false) AssertionStack.sound_decider
      AssertionStack.decidesPinned_decider (.empty _) 0 ⟨5000, by decide, witnessed⟩ none).1 .empty
        [c] []
      (by simpa using closed) (by simpa using fun values _ => nonzero values)
  have flat : Record.fieldValues .empty = .ok .empty := rfl
  refine ⟨(checked false).trans ?_, (checked true).trans ?_⟩
  · rw [Record.onTexts_of_ok flat]
    simp [compileFieldRules, direct]
  · rw [Record.onTexts_of_ok flat]
    simp [compileFieldRules, direct, unreportable]

end RecordAudit
