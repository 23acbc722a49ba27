import RecordAudit.Proofs.Check.Direct
import RecordAudit.Proofs.Solver.Stack

/-!
# Faults that records cause

What is read from a record is a value of the kind's type, whatever the raw text is, and it can be
bound. So a check without a witness ends in a fault when the constraint's assertions cannot be built
or added, and else only when the solver gives a variable that is not declared a value which cannot
be reported. This value may depend on the record.
-/

namespace RecordAudit

open Reading Number

/-! ## Values that are read -/

namespace Reading.Kind

/-- A value of the kind's type that can be written: a truth value, an integer that is not too long,
or a finite number. -/
def Admits : Kind → Typed → Prop
  | .flag, .bool _ | .presence, .bool _ => True
  | .count, .int i | .date, .int i => digitCount i.natAbs ≤ Fault.maxIntegerDigits
  | .amount, .real x => x.isFinite = true
  | _, _ => False

theorem admits_read (kind : Kind) (raw : Option String) : kind.Admits (kind.read raw) := by
  cases kind with
  | flag | presence => trivial
  | count => exact digitCount_readCount_le raw
  | date => exact digitCount_readDay_le raw
  | amount => exact isFinite_readAmount raw

end Reading.Kind

/-! ## Faults of checks -/

namespace Constraint

variable {c : Constraint} {values : FieldValues} {es : List (Expr .bool)} {d : Decider}
  {timeout : Timeout}

/-- The solver has a model of the constraint's assertions and the record's values in which a
variable that is not declared has a value which cannot be reported. -/
def Strays (d : Decider) (timeout : Timeout) (c : Constraint) (values : FieldValues) : Prop :=
  ∃ es entries s name x, c.expressions = .ok es ∧
    (d timeout.milliseconds (es ++ c.bound values)).verdict ≠ .unknown ∧
    (d timeout.milliseconds (es ++ c.bound values)).model = some entries ∧
    .value s name x ∈ entries ∧ ¬c.Declares (s, name) ∧ (s.reported x).isOk = false

theorem value_of_declares {entries : List ModelEntry}
    (isModel : IsModel entries (es ++ c.bound values)) {s : VariableSort} {name : String}
    {x : s.Carrier} (mem : .value s name x ∈ entries) {kind : Kind}
    (entry : (name, kind) ∈ c.kinds.entries) (same : kind.sort = s) :
    same ▸ kind.exact (values.raw? name) = x := by
  subst same
  obtain ⟨v, agrees⟩ := isModel.consistent
  have bound := isModel.pinned kind.sort name (kind.exact (values.raw? name)) kind.sort_ne_text
    (List.mem_append_right _ (List.mem_map.2 ⟨(name, kind), entry, rfl⟩))
  exact (agrees _ _ _ bound).symm.trans (agrees _ _ _ mem)

/-- With the variables bound, a model cannot be reported when the constraint strays, and only
then. -/
theorem unreportable_bound_iff (sound : d.Sound) (expressed : c.expressions = .ok es)
    (timeout : Timeout) (values : FieldValues) :
    (d timeout.milliseconds (es ++ c.bound values)).unreportable = true ↔
      c.Strays d timeout values := by
  have right := sound timeout.milliseconds (es ++ c.bound values)
  unfold Response.unreportable
  rw [Bool.and_eq_true, bne_iff_ne]
  constructor
  · rintro ⟨known, unreported⟩
    obtain ⟨entries, shown, unreported⟩ := (Option.any_eq_true _ _).1 unreported
    obtain ⟨entry, mem, unreported⟩ := List.any_eq_true.1 unreported
    have isModel := (right.isModel known shown).2
    cases entry with
    | other name text => cases unreported
    | value s name x =>
      refine ⟨es, entries, s, name, x, expressed, known, shown, mem,
        ?_, by simpa [ModelEntry.reported] using unreported⟩
      rintro ⟨kind, entry, same⟩
      dsimp only at entry same
      subst same
      obtain rfl := value_of_declares isModel mem entry rfl
      obtain ⟨value, reported⟩ := kind.reported_exact (values.raw? name)
      rw [ModelEntry.reported, reported] at unreported
      cases unreported
  · rintro ⟨es', entries, s, name, x, expressed', known, shown, mem, -, unreported⟩
    obtain rfl := Except.ok.inj (expressed.symm.trans expressed')
    rw [shown]
    exact ⟨known, List.any_eq_true.2 ⟨_, mem, by rw [ModelEntry.reported, unreported]; rfl⟩⟩

theorem Closed.not_strays (closed : c.Closed) (sound : d.Sound) : ¬c.Strays d timeout values := by
  rintro ⟨es, entries, s, name, x, expressed, known, shown, mem, undeclared, -⟩
  have isModel := ((sound _ _).isModel known shown).2
  obtain ⟨e, inEs, occurs⟩ := isModel.occurs s name x mem
  exact undeclared (declares_of_mem (closed es expressed) inEs occurs)

theorem outcome_finding_ne_error (observed : Observed) (answer : Answer) (witness : Option Model) :
    (c.finding observed answer witness).outcome ≠ .error := by
  unfold finding
  cases answer.verdict <;> simp

theorem concluded_of_expressions_error {fault : Fault} (failed : c.expressions = .error fault)
    (timeout : Timeout) (values : FieldValues) (witnessed : Bool) :
    c.concluded d.judge witnessed timeout values = c.failedFinding fault := by
  rw [concluded, examined_eq, failed]
  rfl

/-- Without a witness, the only other fault is that of straying. -/
theorem outcome_eq_error_iff (sound : d.Sound) :
    (c.concluded d.judge false timeout values).outcome = .error ↔
      (∃ fault, c.expressions = .error fault) ∨ c.Strays d timeout values := by
  cases expressed : c.expressions with
  | error fault =>
    rw [concluded_of_expressions_error expressed timeout values]
    exact ⟨fun _ => .inl ⟨fault, rfl⟩, fun _ => rfl⟩
  | ok es =>
    have strays := unreportable_bound_iff sound expressed timeout values
    have answers := Response.isOk_answer (d timeout.milliseconds (es ++ c.bound values))
    rw [← strays, concluded, examined_eq, expressed, ok_bind, Decider.answerOn]
    cases answered : (d timeout.milliseconds (es ++ c.bound values)).answer with
    | error fault =>
      rw [answered] at answers
      simpa [failedFinding, Except.isOk, Except.toBool] using answers
    | ok answer =>
      rw [answered] at answers
      have reportable : (d timeout.milliseconds (es ++ c.bound values)).unreportable = false := by
        simpa [Except.isOk, Except.toBool] using answers
      simpa [reportable] using outcome_finding_ne_error (c := c) _ answer none

end Constraint

/-- Without a witness, a constraint has a fault on a record when its assertions cannot be built or
added, and then it has the same one on all records, or when the solver gives a variable that it does
not declare a value which cannot be reported. So constraints over their own variables have the same
faults on all records. What is read for a kind is always a value of its type, and it can be bound to
a variable of its sort. -/
theorem record_causes_no_fault {σ : Type} {m : Surroundings σ} {d : Decider} {clean : σ → Prop}
    (keeps : m.Keeps d.judge.replies clean) (sound : d.Sound) {w w' : World σ}
    (rest : w.AtRest clean) (rest' : w'.AtRest clean) (t t' : TaskId) (settings : SolverSettings)
    (timeout : Timeout) (cs : List Constraint) (specs : List FieldSpec) :
    let bound : Timeout := some (timeout.getD settings.timeout)
    let check := fun (w : World σ) (t : TaskId) (r : Record) =>
      (w.checkAlone m t { settings with witnessOnViolation := false } timeout r cs specs).1
    ∃ finding : FieldValues → Constraint → ConstraintFinding,
      (∀ r, check w t r = some (r.onTexts fun values => (cs ++ compileFieldRules specs).map
        (finding values))) ∧
      (∀ r, check w' t' r = some (r.onTexts fun values => (cs ++ compileFieldRules specs).map
        (finding values))) ∧
      (∀ c values,
        ((finding values c).outcome = .error ↔
          (∃ fault, c.expressions = .error fault) ∨ c.Strays d bound values) ∧
        ∀ values', ((finding values c).outcome = .error →
            finding values' c = finding values c ∨ c.Strays d bound values) ∧
          (c.Closed →
            ((finding values c).outcome = .error ↔ ∃ fault, c.expressions = .error fault) ∧
            ((finding values c).outcome = .error ↔ (finding values' c).outcome = .error) ∧
            ((finding values c).outcome = .error →
              (finding values' c).explanation = (finding values c).explanation))) ∧
      ∀ (kind : Kind) (raw : Option String), kind.Admits (kind.read raw) ∧
        ∃ x, kind.sortValue (.ofTyped (kind.read raw)) = .ok x ∧
          ∀ name, kind.binding name (kind.read raw) = .ok (kind.sort.equals name x) := by
  intro bound check
  let finding := d.judge.finding { settings with witnessOnViolation := false } timeout
  have faults : ∀ c values, (finding values c).outcome = .error ↔
      (∃ fault, c.expressions = .error fault) ∨ c.Strays d bound values := fun c values =>
    Constraint.outcome_eq_error_iff sound
  have same : ∀ c values values', (finding values c).outcome = .error →
      finding values' c = finding values c ∨ c.Strays d bound values := by
    intro c values values' error
    rcases (faults c values).1 error with ⟨fault, failed⟩ | strays
    · have always := fun values => Constraint.concluded_of_expressions_error (d := d) failed
        bound values false
      exact .inl ((always values').trans (always values).symm)
    · exact .inr strays
  refine ⟨finding, fun r => (World.checkAlone_eq keeps rest t _ timeout r cs specs).1,
    fun r => (World.checkAlone_eq keeps rest' t' _ timeout r cs specs).1,
      fun c values => ⟨faults c values, fun values' => ⟨same c values values', fun closed => ?_⟩⟩,
      fun kind raw => ?_⟩
  · have built : ∀ values, (finding values c).outcome = .error ↔
        ∃ fault, c.expressions = .error fault := fun values =>
      (faults c values).trans (or_iff_left (closed.not_strays sound))
    refine ⟨built values, (built values).trans (built values').symm, fun error => ?_⟩
    exact congrArg _ ((same c values values' error).resolve_right (closed.not_strays sound))
  · exact ⟨kind.admits_read raw, kind.exact raw, kind.sortValue_read raw, fun name =>
      kind.binding_read name raw⟩

/-- A bound on an amount that is absent, or beyond all finite numbers, and an integer in place of an
assertion. -/
theorem record_causes_no_fault_unreadable :
    let bound : Constraint := .ofTerms "b" "B" "x is not negative" .error [("x", .amount)]
      [.compare .ge (.variable "x") (.literal (.int 0))]
    let refused : Constraint :=
      ⟨"c", "C", "c holds", .error, .ofList [("x", .amount)], fun _ =>
        .ok (.many [.value (.int 1)])⟩
    let r : Record := .ofList [("x", .text "1e999999999999")]
    let check := fun r : Record => ((World.empty : World AssertionStack).checkAlone
      (.fresh AssertionStack.backend .empty false) 0 ⟨5000, by decide, false⟩ none r
        [bound, refused] []).1
    ∃ held failed held' failed' : ConstraintFinding,
      check .empty = some (.ok [held, failed]) ∧ check r = some (.ok [held', failed']) ∧
      held.outcome ≠ .error ∧ held'.outcome ≠ .error ∧ failed.outcome = .error ∧
      failed'.outcome = .error ∧
      failed'.explanation = failed.explanation := by
  intro bound refused r check
  obtain ⟨finding, checked, -, faults, -⟩ :=
    record_causes_no_fault (AssertionStack.keeps_fresh false) AssertionStack.sound_decider
      (.empty _) (.empty _) 0 0 ⟨5000, by decide, false⟩ none [bound, refused] []
  have closed : bound.Closed := Constraint.closed_ofTerms _ _ _ _ _ _
  have closed' : refused.Closed := Constraint.closed_of_build (.ok fun a mem => by
    rw [List.mem_singleton.1 mem]
    trivial)
  have held : ∀ values, (finding values bound).outcome ≠ .error := by
    have fine : bound.expressions.isOk = true := by decide +kernel
    intro values
    rw [ne_eq, (((faults bound values).2 values).2 closed).1]
    rintro ⟨fault, failed⟩
    rw [failed] at fine
    cases fine
  have failed : ∀ values, (finding values refused).outcome = .error := by
    have none_fine : refused.expressions.isOk = false := by decide +kernel
    intro values
    rw [(((faults refused values).2 values).2 closed').1]
    cases result : refused.expressions with
    | ok es =>
      rw [result] at none_fine
      cases none_fine
    | error fault => exact ⟨fault, rfl⟩
  exact ⟨_, _, _, _, checked .empty, checked r, held _, held _, failed _, failed _,
    (((faults refused _).2 _).2 closed').2.2 (failed _)⟩

/-! ## A variable that is not declared -/

/-- When another variable has to be a multiple of a known amount, a stack finds this multiple for
it. -/
theorem AssertionStack.decider_multiple (k q : Rat) (milliseconds : Int) :
    ∃ v : Valuation, v .real "x" = q ∧ v .real "aux" = q * k ∧
      decider milliseconds [.compare (n := .real) .eq (.var .real "aux")
          (.arith .mul (.var .real "x") (.const (s := .real) k)), VariableSort.real.equals "x" q] =
        ⟨some true, some (entries [(.real, "aux"), (.real, "x")] v), "incomplete"⟩ := by
  let scaled : Expr .bool := .compare (n := .real) .eq (.var .real "aux")
    (.arith .mul (.var .real "x") (.const (s := .real) k))
  let pins := pinsOf [scaled, VariableSort.real.equals "x" q]
  -- the amount is pinned, so that its multiple is a constant
  have pinned : (pins .real "x").isSome = true :=
    isSome_pinsOf (List.mem_cons_of_mem _ List.mem_cons_self)
      (Expr.pin?_equals (s := .real) nofun "x" q)
  have known : (Expr.var .real "x" : Expr .real).On pins Line.IsConstant := by
    obtain ⟨value, there⟩ := Option.isSome_iff_exists.1 pinned
    refine ⟨⟨[.constant value], ?_, by simp [Line.IsConstant]⟩, by rw [Expr.differences]⟩
    rw [Expr.lines?, there]
    rfl
  have factor := (Expr.Literal.const (n := .real) k).isConstant pins
  have multiple := (known.arith factor fun la lb isA isB => isA.arith .mul isB).mono
    (Q := Line.Over .real "aux") fun l constant => constant.over
  have elementary := Expr.Elementary.equals (s := .real) nofun "x" q
  have linear : ∀ difference ∈ [scaled, VariableSort.real.equals "x" q].flatMap
      (Expr.differences pins), difference.isSome = true := by
    intro difference mem
    obtain ⟨e, among, inE⟩ := List.mem_flatMap.1 mem
    rcases List.mem_cons.1 among with rfl | among
    · exact ((Expr.Linear.var.over pins).compare .eq multiple) difference inE
    · rw [List.mem_singleton.1 among] at inE
      exact elementary.linear pins difference inE
  have scaled_iff : ∀ v : Valuation, scaled.eval v = true ↔
      v .real "aux" = v .real "x" * k := fun v =>
    Numeric.compare_eq_iff
  let found := (Valuation.zero.set .real "x" q).set .real "aux" (q * k)
  have foundX : found .real "x" = q :=
    (Valuation.set_other (by decide)).trans (Valuation.set_self ..)
  have foundAux : found .real "aux" = q * k := Valuation.set_self ..
  have holds : ∀ e ∈ [scaled, VariableSort.real.equals "x" q], e.eval found = true := by
    refine List.forall_mem_cons.2 ⟨?_, List.forall_mem_singleton.2 ?_⟩
    · rw [scaled_iff, foundX, foundAux]
    · exact foundX ▸ Expr.eval_equals_self (s := .real) nofun found "x"
  obtain ⟨v, decided⟩ := decideAssertions_of_linear linear holds
  have right := decideAssertions_sound decided
  have x : v .real "x" = q :=
    Expr.pin?_sound (Expr.pin?_equals (s := .real) nofun "x" q)
      (right _ (List.mem_cons_of_mem _ List.mem_cons_self))
  refine ⟨v, x, ?_, ?_⟩
  · rw [← x]
    exact (scaled_iff v).1 (right scaled List.mem_cons_self)
  · unfold decider
    rw [decided]
    rfl

/-- An undeclared variable has to be 10^400 times a declared one. The constraint is satisfied when
the declared one is zero, and it has a fault when it is one. -/
theorem undeclared_variable_faults :
    let scaled : Expr .bool := .compare (n := .real) .eq (.var .real "aux")
      (.arith .mul (.var .real "x") (.const (s := .real) (10 ^ 400 : Rat)))
    let c : Constraint :=
      ⟨"c", "C", "c holds", .error, .ofList [("x", .amount)], fun _ =>
        .ok (.one (.expr .bool scaled))⟩
    let outcomes := fun text : String => ((World.empty : World AssertionStack).checkAlone
      (.fresh AssertionStack.backend .empty false) 0 ⟨5000, by decide, false⟩ none
        (.ofList [("x", .text text)])
      [c] []).1.map (·.map (List.map (·.outcome)))
    outcomes "0" = some (.ok [.satisfied]) ∧ outcomes "1" = some (.ok [.error]) := by
  intro scaled c outcomes
  have outcome : ∀ text, outcomes text =
      some (.ok [(c.concluded AssertionStack.decider.judge false (some 5000)
          (.ofList [("x", some text)])).outcome]) := by
    intro text
    have checked := (World.checkAlone_eq (AssertionStack.keeps_fresh false) (.empty _) 0
      ⟨5000, by decide, false⟩ none (.ofList [("x", .text text)]) [c] []).1
    change Option.map _ (World.checkAlone _ _ _ _ _ _ _ _).1 = _
    rw [checked]
    rfl
  have expressed : c.expressions = .ok [scaled] := rfl
  have decided : ∀ (text : String) (q : Rat), Kind.amount.exact (some text) = q →
      ∃ v : Valuation, v .real "x" = q ∧ v .real "aux" = q * 10 ^ 400 ∧
      AssertionStack.decider 5000 ([scaled] ++ c.bound (.ofList [("x", some text)])) =
        ⟨some true, some (AssertionStack.entries [(.real, "aux"), (.real, "x")] v),
            "incomplete"⟩ := by
    rintro text q rfl
    exact AssertionStack.decider_multiple (10 ^ 400) _ 5000
  have zero : Kind.amount.exact (some "0") = (0 : Rat) := by
    change ((readAmount (some "0")).decimalValue?).getD (0 : Rat) = 0
    decide +kernel
  have one : Kind.amount.exact (some "1") = (1 : Rat) := by
    change ((readAmount (some "1")).decimalValue?).getD (0 : Rat) = 1
    decide +kernel
  rw [outcome, outcome]
  refine ⟨congrArg (fun o => some (Except.ok [o])) ?_, congrArg (fun o => some (Except.ok [o])) ?_⟩
  · obtain ⟨v, x, aux, response⟩ := decided "0" 0 zero
    have small : (VariableSort.reported .real (0 : Rat)).isOk = true :=
      VariableSort.isOk_reported_of_lt (by simp) (by simp)
    obtain ⟨model, made⟩ : ∃ model,
        Model.ofEntries (AssertionStack.entries [(.real, "aux"), (.real, "x")] v) = .ok model := by
      refine Model.exists_ofEntries_iff.2
        (List.forall_mem_cons.2 ⟨?_, List.forall_mem_singleton.2 ?_⟩)
      · exact isOk_iff.1 (by rw [ModelEntry.reported, aux, zero_mul, small])
      · exact isOk_iff.1 (by rw [ModelEntry.reported, x, small])
    have answered : AssertionStack.decider.answerOn (some 5000) ([scaled] ++
        c.bound (.ofList [("x", some "0")])) = .ok ⟨.satisfiable, some model, none⟩ := by
      refine (Response.answer_of_sat (congrArg Response.holds response)
        (congrArg Response.model response)).trans ?_
      rw [made]
      rfl
    rw [Constraint.concluded, Constraint.examined_eq, expressed, ok_bind, answered]
    rfl
  · obtain ⟨v, x, aux, response⟩ := decided "1" 1 one
    have unreported : (VariableSort.reported .real (v .real "aux")).isOk = false := by
      rw [aux, one_mul]
      exact VariableSort.isOk_reported_ten_pow
    have undeclared : ¬c.Declares (.real, "aux") := by
      rintro ⟨kind, entry, -⟩
      have same : "aux" = "x" := congrArg Prod.fst (List.mem_singleton.1 entry)
      exact absurd same (by decide)
    have satisfiable : (AssertionStack.decider 5000 ([scaled] ++
        c.bound (.ofList [("x", some "1")]))).verdict = .satisfiable := by
      rw [response]
      rfl
    have known := ne_of_eq_of_ne satisfiable (by decide : Verdict.satisfiable ≠ .unknown)
    exact (Constraint.outcome_eq_error_iff AssertionStack.sound_decider).2
      (.inr ⟨[scaled], _, .real, "aux", _, expressed, known, congrArg Response.model response,
        AssertionStack.mem_entries.2 ⟨List.mem_cons_self, rfl⟩,
      undeclared, unreported⟩)

end RecordAudit
