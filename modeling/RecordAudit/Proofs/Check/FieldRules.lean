import RecordAudit.Proofs.Check.Meaning
import RecordAudit.Proofs.Number.Greatest
import RecordAudit.Proofs.Reading.AmountText
import RecordAudit.Proofs.Solver.Candidates
import RecordAudit.Proofs.Solver.Stack

/-!
# Rules on single fields compare as they say

A field's amount and a rule's threshold are read on different ways, and both end at the shortest
decimal of a floating-point number. A rule is satisfied when these decimals compare as it says, and
violated otherwise.
-/

namespace RecordAudit

open Number Text Reading

/-! ## Thresholds -/

/-- A text with a figure is read as a threshold as it is read as an amount. -/
theorem readThreshold_text {s : String} (h : s.toList.any isFigure = true) :
    readThreshold (.text s) = .ok (readAmount (some s)) := by
  have figures := any_isFigure_trim s.toList
  simp [readThreshold, Value.plain, figures, h, readAmount_trim]

/-! ## What is asserted -/

namespace FieldSpec

variable {spec : FieldSpec} {rule : FieldRule} {x : Binary64} {limit : Rat} {d : Decider}

theorem expressions_constraint (read : readThreshold rule.threshold = .ok x)
    (value : x.decimalValue? = some limit) :
    (spec.constraint rule).expressions =
      .ok [.compare (n := .real) rule.comparison (.var .real spec.id)
        (.const (s := .real) limit)] := by
  rw [Constraint.expressions_fieldRule, read, ok_bind, (Value.counts_float value).literal]
  rfl

theorem direct_constraint (read : readThreshold rule.threshold = .ok x)
    (value : x.decimalValue? = some limit) (values : FieldValues) :
    (spec.constraint rule).direct values =
      if rule.comparison.allows
        (Numeric.order .real (Kind.amount.exact (values.raw? spec.id)) limit) then .satisfied
      else .violated := by
  have amount : (spec.constraint rule).valuation values .real spec.id =
      Kind.amount.exact (values.raw? spec.id) :=
    have declared : (spec.id, Kind.amount) ∈ (spec.constraint rule).kinds.entries :=
      List.mem_singleton.2 rfl
    Constraint.valuation_of_mem declared
  rw [Constraint.direct, expressions_constraint read value, ← amount]
  simp only [List.all_cons, List.all_nil, Bool.and_true, Expr.eval, Numeric.compare]

end FieldSpec

/-! ## Witnesses -/

theorem reported_near {x : Binary64} {q : Rat} (value : x.decimalValue? = some q) {i : Int}
    (near : |(i : Rat)| ≤ 1) :
    (VariableSort.reported .real (q + i : Rat)).isOk = true := by
  obtain ⟨num, den, finite⟩ := Binary64.reportable_near value near
  rw [VariableSort.reported_real num den finite]
  rfl

variable {c : Comparison} {name : String} {x : Binary64} {limit : Rat} {w : Valuation}

/-- The comparison of a variable with a number, as an assertion. -/
abbrev comparison (c : Comparison) (name : String) (limit : Rat) : Expr .bool :=
  .compare (n := .real) c (.var .real name) (.const (s := .real) limit)

/-- Only an equation gives its variable a value outright. -/
theorem pinsOf_comparison (h : c ≠ .eq) : pinsOf [comparison c name limit] = fun _ _ => none := by
  cases c with
  | eq => exact absurd rfl h
  | gt | lt | ne | ge | le => rfl

/-- Otherwise the truth of the comparison changes at the number. -/
theorem crossings_comparison (h : c ≠ .eq) :
    crossings (linesOf [comparison c name limit]) .real name = [limit] := by
  have line : linesOf [comparison c name limit] = [[.through .real name 1 (-limit)]] := by
    rw [linesOf, pinsOf_comparison h]
    simp [Expr.differences, Expr.lines?, Line.combine, Line.sub, Line.add, Line.scale,
      Numeric.toRat, List.eraseDups_cons]
  rw [line]
  simp [crossings, Line.crossing?, List.eraseDups_cons]

/-- Where one variable is compared with one number, the values to try are zero, one, the number, and
the numbers at a distance of one from it. -/
theorem near_of_decided (decided : decideAssertions [comparison c name limit] = .satisfied w) :
    ∃ i : Int, |(i : Rat)| ≤ 1 ∧ (w .real name = (i : Rat) ∨ w .real name = limit + i) := by
  by_cases equation : c = .eq
  · subst equation
    have holds := decideAssertions_sound decided (comparison .eq name limit) (by simp)
    have value : w .real name = limit := (Numeric.compare_eq_iff (n := .real)).1 holds
    exact ⟨0, by simp, .inr (by simp [value])⟩
  · have occurs : (VariableSort.real, name) ∈ variablesOf [comparison c name limit] :=
      mem_variablesOf.2 ⟨comparison c name limit, by simp, by simp [Expr.vars]⟩
    obtain ⟨⟨s, name', values⟩, isDomain, same, among⟩ := decideAssertions_among decided occurs
    obtain ⟨rfl, rfl⟩ := Prod.mk.inj same
    obtain ⟨-, ⟨value, pin, -⟩ | ⟨-, tried⟩⟩ := domain_cases isDomain
    · rw [pinsOf_comparison equation] at pin
      cases pin
    · dsimp only at among tried
      rw [tried, crossings_comparison equation] at among
      have value : w .real name' = (0 : Rat) ∨ w .real name' = (1 : Rat) ∨ w .real name' = limit ∨
          w .real name' = limit + 1 ∨ w .real name' = limit - 1 := by
        simpa [candidates, rationalCandidates, afterEach] using among
      rcases value with zero | one | at_limit | above | below
      · exact ⟨0, by simp, .inl (by simpa using zero)⟩
      · exact ⟨1, by simp, .inl (by simpa using one)⟩
      · exact ⟨0, by simp, .inr (by simpa using at_limit)⟩
      · exact ⟨1, by simp, .inr (by simpa using above)⟩
      · exact ⟨-1, by simp, .inr (by simpa [sub_eq_add_neg] using below)⟩

/-- So the model that a stack finds for a rule can be reported. -/
theorem FieldSpec.unreportable_constraint (spec : FieldSpec) (rule : FieldRule)
    (timeout : Timeout) :
    (spec.constraint rule).unreportable AssertionStack.decider timeout = false := by
  rw [Constraint.unreportable, Constraint.expressions_fieldRule]
  cases readThreshold rule.threshold with
  | error fault => rfl
  | ok x =>
    rw [ok_bind]
    cases limited : Operand.literal .real (.float x) with
    | error fault => rfl
    | ok limit =>
      have value := Value.decimalValue?_of_literal limited
      refine (AssertionStack.unreportable_decider timeout.milliseconds
        [comparison rule.comparison spec.id limit]).trans ?_
      cases decided : decideAssertions [comparison rule.comparison spec.id limit] with
      | unsatisfiable | undecided => rfl
      | satisfied w =>
        have asked : variablesOf [comparison rule.comparison spec.id limit] = [(.real, spec.id)] :=
          rfl
        have reported : (VariableSort.reported .real (w .real spec.id)).isOk = true := by
          obtain ⟨i, near, found | found⟩ := near_of_decided decided
          · rw [found, ← zero_add (i : Rat)]
            exact reported_near (Binary64.decimalValue?_zero false) near
          · rw [found]
            exact reported_near value near
        simp [asked, reported]

/-! ## Verdicts -/

/-- The outcomes of the six comparisons of an amount with a limit: exactly one of three is
satisfied, the one that is the order of the two, and the others follow from these. -/
structure Verdicts (amount limit : Rat) (verdict : Comparison → Outcome) : Prop where
  decided : ∀ c, verdict c = .satisfied ∨ verdict c = .violated
  one : ∃! c, c ∈ [Comparison.lt, .eq, .gt] ∧ verdict c = .satisfied
  lt : verdict .lt = .satisfied ↔ amount < limit
  eq : verdict .eq = .satisfied ↔ amount = limit
  gt : verdict .gt = .satisfied ↔ limit < amount
  ge : verdict .ge = .satisfied ↔ verdict .gt = .satisfied ∨ verdict .eq = .satisfied
  le : verdict .le = .satisfied ↔ verdict .lt = .satisfied ∨ verdict .eq = .satisfied
  ne : verdict .ne = .satisfied ↔ ¬ verdict .eq = .satisfied

/-- The outcome of a comparison of two numbers. -/
def verdictOf (amount limit : Rat) (c : Comparison) : Outcome :=
  if c.allows (Numeric.order .real amount limit) then .satisfied else .violated

theorem verdicts (amount limit : Rat) : Verdicts amount limit (verdictOf amount limit) := by
  have lt := Numeric.order_eq_lt_iff (x := amount) (p := limit)
  have gt := Numeric.order_eq_gt_iff (x := amount) (p := limit)
  have eq := Numeric.order_eq_iff (n := .real) (a := amount) (b := limit)
  have satisfied : ∀ c, verdictOf amount limit c = .satisfied ↔
      c.allows (Numeric.order .real amount limit) = true := by
    intro c
    simp [verdictOf]
  constructor
  case decided => grind [verdictOf]
  case one =>
    simp only [satisfied]
    cases Numeric.order .real amount limit with
    | lt => exact ⟨.lt, by decide, fun c => by cases c <;> simp [Comparison.allows]⟩
    | eq => exact ⟨.eq, by decide, fun c => by cases c <;> simp [Comparison.allows]⟩
    | gt => exact ⟨.gt, by decide, fun c => by cases c <;> simp [Comparison.allows]⟩
  case lt => simp [satisfied, Comparison.allows, lt]
  case eq => simp [satisfied, Comparison.allows, eq]
  case gt => simp [satisfied, Comparison.allows, gt]
  all_goals
    simp only [satisfied]
    cases Numeric.order .real amount limit <;> decide

theorem verdictOf_self (amount : Rat) {c : Comparison} (h : c ∈ [Comparison.eq, .ge, .le]) :
    verdictOf amount amount c = .satisfied := by
  have same : Numeric.order .real amount amount = .eq := Numeric.order_eq_iff.2 rfl
  have allowed : c.allows .eq = true := by
    revert h
    cases c <;> decide
  simp [verdictOf, same, allowed]

/-- A rule whose threshold is read has the outcome of its comparison with the decimal of the
threshold. -/
theorem FieldSpec.outcome_constraint {d : Decider} (sound : d.Sound) (decides : d.DecidesPinned)
    (spec : FieldSpec) {rule : FieldRule} {witnessed : Bool} {timeout : Timeout}
    (reportable : witnessed = true → (spec.constraint rule).unreportable d timeout = false)
    (read : readThreshold rule.threshold = .ok x) (value : x.decimalValue? = some limit)
    (values : FieldValues) :
    ((spec.constraint rule).concluded d.judge witnessed timeout values).outcome =
      verdictOf (Kind.amount.exact (values.raw? spec.id)) limit rule.comparison := by
  have unspoiled : (witnessed && (spec.constraint rule).direct values == .violated &&
      (spec.constraint rule).unreportable d timeout) = false := by
    cases witnessed with
    | false => rfl
    | true => rw [reportable rfl, Bool.and_false]
  rw [Constraint.outcome_concluded sound decides (Constraint.closed_fieldRule spec rule)
    (Constraint.nonzeroDivisors_fieldRule spec rule values), unspoiled]
  exact direct_constraint read value values

section Checks

variable {σ : Type} {m : Surroundings σ} {d : Decider} {clean : σ → Prop} {w : World σ}

/-- So do the rules that share a threshold. -/
theorem outcomes_fieldRules (keeps : m.Keeps d.judge.replies clean) (sound : d.Sound)
    (decides : d.DecidesPinned) (rest : w.AtRest clean) (t : TaskId) (settings : SolverSettings)
    (timeout : Timeout) (spec : FieldSpec) (number : spec.type = .number)
    (reportable : settings.witnessOnViolation = true → ∀ rule,
      (spec.constraint rule).unreportable d (some (timeout.getD settings.timeout)) = false)
    (value : x.decimalValue? = some limit)
    (read : ∀ rule ∈ spec.rules, readThreshold rule.threshold = .ok x) (r : Record) :
    (w.checkAlone m t settings timeout r [] [spec]).1.map (·.map (List.map (·.outcome))) =
      some (r.onTexts fun values => spec.rules.map fun rule =>
        verdictOf (Kind.amount.exact (values.raw? spec.id)) limit rule.comparison) := by
  have checked := (World.checkAlone_eq keeps rest t settings timeout r [] [spec]).1
  have compiled : compileFieldRules [spec] = spec.rules.map spec.constraint := by
    simp [compileFieldRules, number]
  change Option.map _ (w.checkAlone _ _ _ _ _ _ _).1 = _
  rw [checked, Option.map_some, Record.map_onTexts, compiled, List.nil_append]
  refine congrArg (fun f => some (r.onTexts f)) (funext fun values => ?_)
  rw [List.map_map, List.map_map]
  exact List.map_congr_left fun rule mem =>
    spec.outcome_constraint sound decides (fun witnessed => reportable witnessed rule)
      (read rule mem) value values

/-- The rules of a number field compare the amount that is read from a record with the threshold.
With a threshold that is read as a finite number, exactly one of less, equal and greater is
satisfied, the one that is the order of their exact decimals, and the other comparisons follow;
nothing fails. A field whose text is that of the threshold equals it. When witnesses are asked for,
the models that the solver finds for such rules have to be reportable. -/
theorem field_rules_compare (keeps : m.Keeps d.judge.replies clean) (sound : d.Sound)
    (decides : d.DecidesPinned) (rest : w.AtRest clean) (t : TaskId) (settings : SolverSettings)
    (timeout : Timeout) (spec : FieldSpec) (number : spec.type = .number)
    (reportable : settings.witnessOnViolation = true → ∀ rule,
      (spec.constraint rule).unreportable d (some (timeout.getD settings.timeout)) = false) :
    let outcomes := fun (r : Record) (rules : List FieldRule) =>
      (w.checkAlone m t settings timeout r [] [{ spec with rules := rules }]).1.map
        (·.map (List.map (·.outcome)))
    (∀ (threshold : Value) (x : Binary64), readThreshold threshold = .ok x → x.isFinite = true →
        ∃ limit, x.decimalValue? = some limit ∧ ∀ r values, r.fieldValues = .ok values →
          ∃ amount verdict, (readAmount (values.raw? spec.id)).decimalValue? = some amount ∧
            Verdicts amount limit verdict ∧ ∀ rules, (∀ rule ∈ rules, rule.threshold = threshold) →
              outcomes r rules = some (.ok (rules.map fun rule => verdict rule.comparison))) ∧
      ∀ s : String, s.toList.any isFigure = true →
        ∀ r values, r.fieldValues = .ok values → values.raw? spec.id = some s →
          ∀ rules, (∀ rule ∈ rules, rule.threshold = .text s ∧
            rule.comparison ∈ [Comparison.eq, .ge, .le]) →
                outcomes r rules = some (.ok (rules.map fun _ => .satisfied)) := by
  intro outcomes
  have compared : ∀ (threshold : Value) (x : Binary64) (limit : Rat), readThreshold threshold =
      .ok x → x.decimalValue? = some limit → ∀ r values, r.fieldValues = .ok values →
        ∀ rules : List FieldRule, (∀ rule ∈ rules, rule.threshold = threshold) →
        outcomes r rules = some (.ok (rules.map fun rule =>
          verdictOf (Kind.amount.exact (values.raw? spec.id)) limit rule.comparison)) := by
    intro threshold x limit read value r values flat rules same
    refine (outcomes_fieldRules keeps sound decides rest t settings timeout
      { spec with rules := rules } number reportable value (fun rule mem => (same rule mem).symm ▸
        read) r).trans ?_
    rw [Record.onTexts_of_ok flat]
  refine ⟨fun threshold x read finite => ?_, fun s figures r values flat raw rules all => ?_⟩
  · obtain ⟨limit, value, -⟩ := Binary64.exists_decimalValue finite
    exact ⟨limit, value, fun r values flat => ⟨_, _, Kind.decimalValue?_readAmount _,
      verdicts _ limit, compared threshold x limit read value r values flat⟩⟩
  · have read := readThreshold_text figures
    have same := congrArg Kind.amount.exact raw
    rw [compared _ _ _ read (Kind.decimalValue?_readAmount (some s)) r values flat rules
      fun rule mem => (all rule mem).1, same]
    refine congrArg some (congrArg Except.ok (List.map_congr_left fun rule mem => ?_))
    exact verdictOf_self _ (all rule mem).2

end Checks

/-- An amount of `1.5k` and a threshold of 2000, with a witness asked for; then the threshold is the
text itself. -/
theorem field_rules_compare_thousands :
    let rules := fun (cs : List Comparison) (threshold : Value) =>
      cs.map fun c => (⟨c.name, c, threshold, none⟩ : FieldRule)
    let outcomes := fun rules : List FieldRule =>
      ((World.empty : World AssertionStack).checkAlone (.fresh AssertionStack.backend .empty false)
        0 ⟨5000, by decide, true⟩ none (.ofList [("fee", .text " 1.5k ")]) []
          [⟨"fee", "Fee", .number, rules⟩]).1.map
        (·.map (List.map (·.outcome)))
    outcomes (rules [.lt, .eq, .gt, .ge, .le, .ne] (.int 2000)) =
        some (.ok [.satisfied, .violated, .violated, .violated, .satisfied, .satisfied]) ∧
      outcomes (rules [.eq, .ge, .le] (.text " 1.5k ")) =
          some (.ok [.satisfied, .satisfied, .satisfied]) := by
  intro rules outcomes
  let spec : FieldSpec := ⟨"fee", "Fee", .number, []⟩
  obtain ⟨compared, equal⟩ :=
    field_rules_compare (AssertionStack.keeps_fresh false) AssertionStack.sound_decider
      AssertionStack.decidesPinned_decider (.empty _) 0 ⟨5000, by decide, true⟩ none spec rfl
    fun _ rule => spec.unreportable_constraint rule _
  have flat : Record.fieldValues (.ofList [("fee", .text " 1.5k ")]) =
    .ok (.ofList [("fee", some " 1.5k ")]) := rfl
  refine ⟨?_, ?_⟩
  · have finite : (Binary64.ofInt 2000).isFinite = true := by decide +kernel
    have read : readThreshold (.int 2000) = .ok (Binary64.ofInt 2000) := by
      rw [readThreshold, Value.toBinary64]
      simp [finite]
    obtain ⟨limit, ofLimit, each⟩ := compared (.int 2000) _ read finite
    obtain ⟨amount, verdict, ofAmount, verdicts, all⟩ := each _ _ flat
    have amount_eq : amount = 1500 := by
      have value : (readAmount (some " 1.5k ")).decimalValue? = some 1500 := by decide +kernel
      exact Option.some.inj (ofAmount.symm.trans value)
    have limit_eq : limit = 2000 := by
      have value : (Binary64.ofInt 2000).decimalValue? = some 2000 := by decide +kernel
      exact Option.some.inj (ofLimit.symm.trans value)
    rw [amount_eq, limit_eq] at verdicts
    have lt : verdict .lt = .satisfied := verdicts.lt.2 (by decide)
    have eq : verdict .eq ≠ .satisfied := fun h => absurd (verdicts.eq.1 h) (by decide)
    have gt : verdict .gt ≠ .satisfied := fun h => absurd (verdicts.gt.1 h) (by decide)
    have ge : verdict .ge ≠ .satisfied := fun h => (verdicts.ge.1 h).elim gt eq
    have violated := fun c => (verdicts.decided c).resolve_left
    refine (all _ (List.forall_mem_map.2 fun c _ => rfl)).trans ?_
    simp [lt, violated .eq eq, violated .gt gt, violated .ge ge, verdicts.le.2 (.inl lt),
      verdicts.ne.2 eq]
  · exact equal " 1.5k " (by decide +kernel) _ _ flat rfl _
      (List.forall_mem_map.2 fun c mem => ⟨rfl, mem⟩)

end RecordAudit
