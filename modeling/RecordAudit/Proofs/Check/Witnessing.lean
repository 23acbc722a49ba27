import RecordAudit.Proofs.Check.Direct

/-!
# Asking for a witness

When a constraint is violated, a second check can look for values that would satisfy it. What it
finds goes into the finding as the witness, and nothing else of the finding depends on it. There is
one exception: a model that cannot be reported turns the violation into a fault.
-/

namespace RecordAudit

namespace Constraint

variable {c : Constraint} {values : FieldValues} {d : Decider}

/-- Of a finding only the witness depends on the witness. -/
theorem finding_witness (c : Constraint) (observed : Observed) (answer : Answer)
    (witness : Option Model) :
    c.finding observed answer witness =
      { c.finding observed answer none with witness := (c.finding observed answer
        witness).witness } := by
  unfold finding
  cases answer.verdict <;> rfl

theorem witness_finding_none (c : Constraint) (observed : Observed) (answer : Answer) :
    (c.finding observed answer none).witness = none := by
  unfold finding
  cases answer.verdict <;> rfl

theorem outcome_finding_eq_violated_iff {observed : Observed} {answer : Answer}
    {witness : Option Model} :
    (c.finding observed answer witness).outcome = .violated ↔ answer.verdict = .unsatisfiable := by
  unfold finding
  cases answer.verdict <;> simp

section Concluded

variable {j : Judge} {witnessed : Bool} {timeout : Timeout}

theorem concluded_of_ok {answer : Answer} {witness : Option Model}
    (examined : c.examined j witnessed timeout values = .ok (answer, witness)) :
    c.concluded j witnessed timeout values = c.finding (c.observe values) answer witness := by
  rw [concluded, examined]

theorem concluded_of_error {fault : Fault}
    (examined : c.examined j witnessed timeout values = .error fault) :
    c.concluded j witnessed timeout values = c.failedFinding fault := by
  rw [concluded, examined]

section Examined

variable {es : List (Expr .bool)} {answer : Answer} (expressed : c.expressions = .ok es)
  (answered : d.answerOn timeout (es ++ c.bound values) = .ok answer)
include expressed answered

theorem examined_asked (unsat : answer.verdict = .unsatisfiable) :
    c.examined d.judge true timeout values = (d.answerOn timeout es).map fun second =>
      (answer, if second.verdict == .satisfiable
        then second.model.map (·.restrict c.fields) else none) := by
  rw [examined_eq, expressed, ok_bind, answered, ok_bind, unsat]
  cases d.answerOn timeout es <;> rfl

theorem examined_once (once : (witnessed && answer.verdict == .unsatisfiable) = false) :
    c.examined d.judge witnessed timeout values = .ok (answer, none) := by
  rw [examined_eq, expressed, ok_bind, answered, ok_bind, once]
  rfl

end Examined

/-- A fault before the first answer is a fault with and without a witness. Otherwise the finding is
that of the first answer, unless the answer is a contradiction and the model that is found for a
witness cannot be reported. -/
theorem concluded_cases (d : Decider) (c : Constraint) (timeout : Timeout) (values : FieldValues) :
    (∃ fault, ∀ witnessed, c.concluded d.judge witnessed timeout values = c.failedFinding fault) ∨
      ∃ answer,
        c.concluded d.judge false timeout values = c.finding (c.observe values) answer none ∧
        if answer.verdict = .unsatisfiable ∧ c.unreportable d timeout = true then
          ∃ fault, c.concluded d.judge true timeout values = c.failedFinding fault
        else ∃ witness,
          c.concluded d.judge true timeout values =
            c.finding (c.observe values) answer witness := by
  cases expressed : c.expressions with
  | error fault =>
    exact .inl ⟨fault, fun witnessed => concluded_of_error (by rw [examined_eq, expressed]; rfl)⟩
  | ok es =>
    have own := isOk_answerOn (d := d) expressed timeout
    cases answered : d.answerOn timeout (es ++ c.bound values) with
    | error fault =>
      exact .inl ⟨fault, fun witnessed =>
        concluded_of_error (by rw [examined_eq, expressed, ok_bind, answered]; rfl)⟩
    | ok answer =>
      refine .inr ⟨answer, concluded_of_ok (examined_once expressed answered rfl), ?_⟩
      by_cases unsat : answer.verdict = .unsatisfiable
      · have asked := examined_asked expressed answered unsat
        cases found : d.answerOn timeout es with
        | error fault =>
          have unreportable : c.unreportable d timeout = true := by
            simpa [found, Except.isOk, Except.toBool] using own
          rw [if_pos ⟨unsat, unreportable⟩]
          exact ⟨fault, concluded_of_error (by rw [asked, found]; rfl)⟩
        | ok second =>
          have reportable : c.unreportable d timeout = false := by
            simpa [found, Except.isOk, Except.toBool] using own
          rw [if_neg (by simp [reportable])]
          exact ⟨_, concluded_of_ok (by rw [asked, found]; rfl)⟩
      · have once : (true && answer.verdict == .unsatisfiable) = false := by simpa using unsat
        rw [if_neg fun both => unsat both.1]
        exact ⟨none, concluded_of_ok (examined_once expressed answered once)⟩

end Concluded

/-- The findings with and without a witness are the same but for the witness, unless a violation has
a model that cannot be reported. -/
theorem concluded_witnessed (d : Decider) (c : Constraint) (timeout : Timeout)
    (values : FieldValues) :
    let plain := c.concluded d.judge false timeout values
    let asked := c.concluded d.judge true timeout values
    plain.witness = none ∧
      if plain.outcome = .violated ∧ c.unreportable d timeout = true
        then ∃ fault, asked = c.failedFinding fault
      else asked = { plain with witness := asked.witness } := by
  intro plain asked
  rcases c.concluded_cases d timeout values with ⟨fault, failed⟩ | ⟨answer, plain_eq, asked_eq⟩
  · have plain_eq : plain = c.failedFinding fault := failed false
    have asked_eq : asked = c.failedFinding fault := failed true
    have notViolated : ¬(plain.outcome = .violated ∧ c.unreportable d timeout = true) := by
      rw [plain_eq]
      exact nofun
    rw [if_neg notViolated, plain_eq, asked_eq]
    exact ⟨rfl, rfl⟩
  · have plain_eq : plain = c.finding (c.observe values) answer none := plain_eq
    have violated_iff : plain.outcome = .violated ↔ answer.verdict = .unsatisfiable := by
      rw [plain_eq]
      exact outcome_finding_eq_violated_iff
    refine ⟨plain_eq ▸ c.witness_finding_none _ _, ?_⟩
    split at asked_eq
    · next unreported =>
      rw [if_pos ⟨violated_iff.2 unreported.1, unreported.2⟩]
      exact asked_eq
    · next reported =>
      obtain ⟨witness, asked_eq⟩ := asked_eq
      have asked_eq : asked = c.finding (c.observe values) answer witness := asked_eq
      rw [if_neg fun both => reported ⟨violated_iff.1 both.1, both.2⟩, asked_eq, plain_eq]
      exact c.finding_witness _ _ _

theorem direct_of_ne {name : String} {kind : Reading.Kind} {value : kind.sort.Carrier}
    (declared : (name, kind) ∈ c.kinds.entries)
    (expressed : c.expressions = .ok [kind.sort.equals name value])
    (other : kind.exact (values.raw? name) ≠ value) : c.direct values = .violated := by
  have fails : (kind.sort.equals name value).eval (c.valuation values) = false := by
    rw [Bool.eq_false_iff]
    intro holds
    have same := Expr.pin?_sound (Expr.pin?_equals kind.sort_ne_text name value) holds
    exact other ((valuation_of_mem declared).symm.trans same)
  rw [direct, expressed]
  simp [fails]

end Constraint

/-- Whatever the solver's answers are, with a witness asked for a check finds what it finds without,
but for the witness. Only a violation whose assertions have a model that cannot be reported becomes
a fault. -/
theorem witness_changes_nothing_else {σ : Type} {m : Surroundings σ} {d : Decider}
    {clean : σ → Prop} (keeps : m.Keeps d.judge.replies clean) {w : World σ} (rest : w.AtRest clean)
    (t : TaskId) (settings : SolverSettings) (timeout : Timeout) (r : Record) (cs : List Constraint)
    (specs : List FieldSpec) :
    let bound : Timeout := some (timeout.getD settings.timeout)
    let check := fun witnessed : Bool =>
      (w.checkAlone m t { settings with witnessOnViolation := witnessed } timeout r cs specs).1
    ∃ plain asked : FieldValues → Constraint → ConstraintFinding,
      check false = some (r.onTexts fun values => (cs ++ compileFieldRules specs).map
        (plain values)) ∧
      check true = some (r.onTexts fun values => (cs ++ compileFieldRules specs).map
        (asked values)) ∧
      ∀ values c, (plain values c).witness = none ∧
        if (plain values c).outcome = .violated ∧ c.unreportable d bound = true then
          ∃ fault, asked values c = c.failedFinding fault
        else asked values c = { plain values c with witness := (asked values c).witness } := by
  intro bound check
  have checked := fun witnessed : Bool =>
    (World.checkAlone_eq keeps rest t { settings with witnessOnViolation := witnessed }
      timeout r cs specs).1
  exact ⟨_, _, checked false, checked true, fun values c => c.concluded_witnessed d bound values⟩

/-- An absent amount that has to be beyond the floating-point numbers: a violation, of which a fault
is left when a witness is asked for. -/
theorem witness_changes_nothing_else_too_large :
    let tooLarge : Expr .bool := VariableSort.real.equals "x" (2 * 10 ^ 308 : Rat)
    let c : Constraint :=
      ⟨"c", "C", "c holds", .error, .ofList [("x", .amount)], fun _ =>
        .ok (.one (.expr .bool tooLarge))⟩
    let check := fun witnessed : Bool => ((World.empty : World AssertionStack).checkAlone
      (.fresh AssertionStack.backend .empty false) 0 ⟨5000, by decide, witnessed⟩ none
        .empty [c] []).1
    ∃ plain fault, check false = some (.ok [plain]) ∧ plain.outcome = .violated ∧
      check true = some (.ok [c.failedFinding fault]) := by
  intro tooLarge c check
  have declared : ("x", Reading.Kind.amount) ∈ c.kinds.entries := List.mem_singleton.2 rfl
  have expressed : c.expressions = .ok [Reading.Kind.amount.sort.equals "x" (2 * 10 ^ 308 : Rat)] :=
    rfl
  have closed : c.Closed := Constraint.closed_of_build (.ok fun x mem => by
    rw [List.mem_singleton.1 mem]
    exact ⟨.amount, declared, rfl⟩)
  have nonzero : c.NonzeroDivisors .empty := fun es same e mem => by
    obtain rfl := Except.ok.inj (expressed.symm.trans same)
    rw [List.mem_singleton.1 mem]
    exact Expr.nonzeroDivisors_equals _ _ _
  have absent : Reading.Kind.amount.exact (FieldValues.raw? .empty "x") ≠ (2 * 10 ^ 308 : Rat) := by
    change Reading.Kind.amount.exact none ≠ (2 * 10 ^ 308 : Rat)
    rw [Reading.Kind.exact_amount_none]
    exact (mul_pos two_pos (pow_pos (by decide : (0 : Rat) < 10) 308)).ne
  have violated : c.direct .empty = .violated := Constraint.direct_of_ne declared expressed absent
  have unreported : (VariableSort.reported .real (2 * 10 ^ 308 : Rat)).isOk = false :=
    VariableSort.isOk_reported_of_ge (le_abs_self _)
  have unreportable : c.unreportable AssertionStack.decider (some 5000) = true := by
    rw [Constraint.unreportable, expressed]
    exact Decider.unreportable_equals (s := .real) AssertionStack.sound_decider
      AssertionStack.decidesPinned_decider (by decide) "x" unreported _
  obtain ⟨plain, asked, off, on, each⟩ :=
    witness_changes_nothing_else (AssertionStack.keeps_fresh false) (.empty _) 0
      ⟨5000, by decide, false⟩ none .empty [c] []
  have off : check false = some (.ok [plain .empty c]) := off
  have on : check true = some (.ok [asked .empty c]) := on
  have outcome : (plain .empty c).outcome = .violated := by
    have alone : check false = some (.ok
        [AssertionStack.decider.judge.finding ⟨5000, by decide, false⟩ none .empty c]) :=
      (World.checkAlone_eq (AssertionStack.keeps_fresh false) (.empty _) 0 ⟨5000, by decide, false⟩
        none .empty [c] []).1
    have same := Except.ok.inj (Option.some.inj (off.symm.trans alone))
    rw [(List.cons.inj same).1]
    exact (Constraint.outcome_concluded AssertionStack.sound_decider
      AssertionStack.decidesPinned_decider closed nonzero false _).trans violated
  have spoiled := (each .empty c).2
  rw [if_pos ⟨outcome, unreportable⟩] at spoiled
  obtain ⟨fault, failed⟩ := spoiled
  exact ⟨plain .empty c, fault, off, outcome, on.trans (by rw [failed])⟩

end RecordAudit
