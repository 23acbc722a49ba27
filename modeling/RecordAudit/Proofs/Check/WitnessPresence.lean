import RecordAudit.Proofs.Check.WitnessReadBack

/-!
# When there is a witness

A violation is found with the record's values in a frame of its own. The second check no longer sees
them: it asks whether any values make the constraint's assertions true. Where the assertions are
elementary it is never left open, so a violation has a witness just when the constraint can be
satisfied at all, whatever the record holds.
-/

namespace RecordAudit

namespace Constraint

variable {c : Constraint} {values : FieldValues} {timeout : Timeout}
  {es : List (Expr .bool)} {d : Decider}

def Satisfiable (c : Constraint) : Prop :=
  ∃ es, c.expressions = .ok es ∧ ∃ v : Valuation, ∀ e ∈ es, e.eval v = true

def Elementary (c : Constraint) : Prop := ∀ es, c.expressions = .ok es → ∀ e ∈ es, e.Elementary

theorem Elementary.nonzeroDivisors (elementary : c.Elementary) : c.NonzeroDivisors values :=
  fun es expressed e mem => (elementary es expressed e mem).nonzeroDivisors

/-- A violation comes from two answers: the record's values contradict the assertions, and there is
an answer on the assertions alone. -/
theorem answers_of_violated
    (violated : (c.concluded d.judge true timeout values).outcome = .violated) :
    ∃ es answer second, c.expressions = .ok es ∧ d.answerOn timeout (es ++ c.bound values) =
      .ok answer ∧ answer.verdict = .unsatisfiable ∧ d.answerOn timeout es = .ok second := by
  cases examined : c.examined d.judge true timeout values with
  | error fault =>
    rw [concluded_of_error examined] at violated
    cases violated
  | ok result =>
    rw [concluded_of_ok examined, outcome_finding_eq_violated_iff] at violated
    obtain ⟨es, expressed, answered, asked⟩ := answers_of_examined examined
    obtain ⟨second, again⟩ := asked ⟨rfl, violated⟩
    exact ⟨es, result.1, second, expressed, answered, violated, again⟩

theorem isSome_witness_iff (sound : d.Sound) (decides : d.DecidesElementary)
    (elementary : c.Elementary)
    (violated : (c.concluded d.judge true timeout values).outcome = .violated) :
    (c.concluded d.judge true timeout values).witness.isSome = true ↔ c.Satisfiable := by
  obtain ⟨es, answer, second, expressed, answered, unsat, again⟩ := answers_of_violated violated
  have own := elementary es expressed
  rw [Option.isSome_iff_exists]
  constructor
  · rintro ⟨witness, there⟩
    obtain ⟨entries, -, said, shown, -⟩ :=
      (witness_contradicted_iff expressed answered unsat).1 there
    obtain ⟨entries', shown', isModel⟩ := (sound _ es).sat said
    obtain rfl := Option.some.inj (shown.symm.trans shown')
    obtain ⟨v, holds, -⟩ := isModel.exists_valuation ((decides _ es own).2 entries shown) own
    exact ⟨es, expressed, v, holds⟩
  · rintro ⟨es', expressed', v, holds⟩
    obtain rfl := Except.ok.inj (expressed.symm.trans expressed')
    rcases (sound timeout.milliseconds es).answer_elementary (decides _ es) own again with
      ⟨sat, -, model, -, shown, -⟩ | ⟨-, -, fails⟩
    · obtain ⟨said, entries, there, made⟩ :=
        Response.answer_satisfiable_iff.1 ⟨second, again, sat, shown⟩
      exact ⟨_, (witness_contradicted_iff expressed answered unsat).2 ⟨entries, model, said,
        there, made, rfl⟩⟩
    · obtain ⟨e, mem, isFalse⟩ := fails v
      rw [holds e mem] at isFalse
      cases isFalse

/-- When a witness is asked for, a finding is a violation just when the record's values make some
assertion false and the model that is found for a witness, if any, can be reported. -/
theorem Closed.outcome_eq_violated_iff (closed : c.Closed) (sound : d.Sound)
    (decides : d.DecidesPinned) (nonzero : c.NonzeroDivisors values) :
    (c.concluded d.judge true timeout values).outcome = .violated ↔
      c.direct values = .violated ∧ c.unreportable d timeout = false := by
  rw [outcome_concluded sound decides closed nonzero]
  cases c.direct values <;> cases c.unreportable d timeout <;> simp

end Constraint

/-- With a witness asked for, a violation of a constraint with elementary assertions has one just
when some values of the variables make all assertions true, whatever values the record has, if the
solver is sound and decides such assertions. What is satisfied has none. A violation is found where
the record's values make an assertion false, unless the model that is found cannot be reported. -/
theorem witness_present_iff {σ : Type} {m : Surroundings σ} {d : Decider} {clean : σ → Prop}
    (keeps : m.Keeps d.judge.replies clean) (sound : d.Sound) (decides : d.DecidesElementary)
    (pinned : d.DecidesPinned) {w : World σ} (rest : w.AtRest clean) (t : TaskId)
    (settings : SolverSettings) (timeout : Timeout) :
    let bound : Timeout := some (timeout.getD settings.timeout)
    ∃ finding : FieldValues → Constraint → ConstraintFinding,
      (∀ r cs specs, (w.checkAlone m t { settings with witnessOnViolation := true } timeout r cs
        specs).1 = some (r.onTexts fun values => (cs ++ compileFieldRules specs).map
          (finding values))) ∧
      ∀ values c,
        ((finding values c).outcome = .satisfied → (finding values c).witness = none) ∧
        (c.Elementary → (finding values c).outcome = .violated →
          ((finding values c).witness.isSome = true ↔ c.Satisfiable)) ∧
        (c.Closed → c.NonzeroDivisors values →
          ((finding values c).outcome = .violated ↔
              c.direct values = .violated ∧ c.unreportable d bound = false)) := by
  intro bound
  refine ⟨_, fun r cs specs => (World.checkAlone_eq keeps rest t _ timeout r cs specs).1,
      fun values c =>
    ⟨fun satisfied => ?_, fun elementary violated => Constraint.isSome_witness_iff sound decides
      elementary violated, fun closed nonzero =>
        closed.outcome_eq_violated_iff sound pinned nonzero⟩⟩
  by_contra there
  obtain ⟨witness, there⟩ := Option.ne_none_iff_exists'.1 there
  cases satisfied.symm.trans (Constraint.violated_of_witness there)

/-- An absent count that has to be above zero is violated and has a witness. It has none when it
also has to be below zero. -/
theorem witness_present_iff_above :
    let above : Expr .bool := .compare .gt (.var .int "x") (.const (s := .int) 0)
    let below : Expr .bool := .compare .lt (.var .int "x") (.const (s := .int) 0)
    let c := fun es : List (Expr .bool) => Constraint.mk "c" "C" "c holds" .error
      (.ofList [("x", .count)]) fun _ => .ok (.many (es.map (Operand.expr .bool)))
    ∃ possible impossible, ((World.empty : World AssertionStack).checkAlone
        (.fresh AssertionStack.backend .empty false) 0 ⟨5000, by decide, true⟩ none .empty
        [c [above], c [above, below]] []).1 = some (.ok [possible, impossible]) ∧
      possible.outcome = .violated ∧ possible.witness.isSome = true ∧
      impossible.outcome = .violated ∧ impossible.witness = none := by
  intro above below c
  have elementary : ∀ e ∈ [above, below], e.Elementary := by
    intro e mem
    rcases List.mem_pair.1 mem with rfl | rfl
    · exact .compare .gt .var (.literal (.const _))
    · exact .compare .lt .var (.literal (.const _))
  have closed : ∀ es : List (Expr .bool), es ⊆ [above, below] → (c es).Closed := by
    intro es among
    refine Constraint.closed_of_build (.ok fun a mem => ?_)
    obtain ⟨e, isOne, rfl⟩ := List.mem_map.1 mem
    intro x occurs
    have only : x = (.int, "x") := by
      rcases List.mem_pair.1 (among isOne) with rfl | rfl <;> exact List.mem_singleton.1 occurs
    rw [only]
    exact ⟨.count, List.mem_singleton.2 rfl, rfl⟩
  have ofOne : (c [above]).Elementary := fun es expressed => by
    obtain rfl : [above] = es := Except.ok.inj expressed
    exact fun e mem => elementary e (List.mem_cons.2 (.inl (List.mem_singleton.1 mem)))
  have ofBoth : (c [above, below]).Elementary := fun es expressed => by
    obtain rfl : [above, below] = es := Except.ok.inj expressed
    exact elementary
  obtain ⟨finding, checked, each⟩ := witness_present_iff (AssertionStack.keeps_fresh false)
    AssertionStack.sound_decider AssertionStack.decidesElementary_decider
      AssertionStack.decidesPinned_decider
    (.empty _) 0 ⟨5000, by decide, true⟩ none
  have possible : (finding .empty (c [above])).outcome = .violated :=
    ((each _ _).2.2 (closed _ (by simp)) ofOne.nonzeroDivisors).2
      ⟨by decide +kernel, by decide +kernel⟩
  have impossible : (finding .empty (c [above, below])).outcome = .violated :=
    ((each _ _).2.2 (closed _ (by simp)) ofBoth.nonzeroDivisors).2
      ⟨by decide +kernel, by decide +kernel⟩
  have satisfiable : (c [above]).Satisfiable :=
    ⟨[above], rfl, Valuation.zero.set .int "x" (1 : Int), by decide⟩
  have unsatisfiable : ¬(c [above, below]).Satisfiable := by
    rintro ⟨es, expressed, v, holds⟩
    obtain rfl : [above, below] = es := Except.ok.inj expressed
    have isAbove : Numeric.compare .int .gt (v .int "x") (0 : Int) = true := holds above (by simp)
    have isBelow : Numeric.compare .int .lt (v .int "x") (0 : Int) = true := holds below (by simp)
    simp only [Numeric.compare, Comparison.allows, beq_iff_eq] at isAbove isBelow
    rw [isAbove] at isBelow
    cases isBelow
  have present := (each .empty (c [above])).2.1 ofOne possible
  have absent := (each .empty (c [above, below])).2.1 ofBoth impossible
  refine ⟨_, _, checked .empty [c [above], c [above, below]] [], possible, present.2 satisfiable,
    impossible, ?_⟩
  rw [← Option.not_isSome_iff_eq_none]
  exact fun there => unsatisfiable (absent.1 there)

end RecordAudit
