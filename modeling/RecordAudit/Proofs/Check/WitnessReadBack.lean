import Mathlib.Tactic.Linarith
import RecordAudit.Proofs.Check.Witnessing
import RecordAudit.Proofs.Check.Coherence
import RecordAudit.Proofs.Solver.Stack

/-!
# Reading a witness back

A witness reports values that satisfy a constraint's assertions. Truth values and integers are
reported as they are; an amount is reported as the nearest floating-point number, and bound again it
stands for the fraction that the shortest decimal of that number writes. So a witness that is bound
again satisfies the assertions where this rounding changes none of its amounts, and it need not do
so elsewhere.
-/

namespace RecordAudit

open Reading Number

/-! ## Reported values -/

/-- The value that a reported value stands for when it is bound again. -/
def VariableSort.restated : (s : VariableSort) → s.Carrier → s.Carrier
  | .numeric .real, (q : Rat) => ((Binary64.ofRat q).decimalValue?).getD q
  | .bool, b => b
  | .numeric .int, i => i
  | .text, s => s

theorem VariableSort.restated_of_ne {s : VariableSort} (notReal : s ≠ .real) (x : s.Carrier) :
    s.restated x = x := by
  match s, notReal with
  | .bool, _ | .numeric .int, _ | .text, _ => rfl
  | .numeric .real, notReal => exact absurd rfl notReal

/-- Each variable has the value that its own value stands for when it is reported and bound
again. -/
def Valuation.restated (v : Valuation) : Valuation := fun s name => s.restated (v s name)

/-- A valuation has the values of entries as they are reported and bound again, and otherwise those
of another one. -/
structure Valuation.Restates (back found : Valuation) (entries : List ModelEntry) : Prop where
  witnessed : ∀ s name x, .value s name x ∈ entries → found s name = x ∧ back s name = s.restated x
  other : ∀ s name, (∀ x, .value s name x ∉ entries) → back s name = found s name

theorem Value.ofTyped_injective : Function.Injective Value.ofTyped := by
  intro a b same
  cases a <;> cases b <;> cases same <;> rfl

theorem Reading.Kind.binding_of_reported (kind : Kind) {x : kind.sort.Carrier} {value : Value}
    (reported : kind.sort.reported x = .ok value) :
    ∃ typed, value = .ofTyped typed ∧
      ∀ name, kind.binding name typed = .ok (kind.sort.equals name (kind.sort.restated x)) := by
  cases kind with
  | flag | presence =>
    cases reported
    exact ⟨.bool x, rfl, fun name => rfl⟩
  | count | date =>
    cases bounded : boundedInteger x with
    | error fault =>
      change (boundedInteger x >>= fun i => .ok (Value.int i)) = .ok value at reported
      rw [bounded] at reported
      cases reported
    | ok i =>
      have same : x = i := by
        unfold boundedInteger at bounded
        dsimp only at bounded
        split at bounded <;> cases bounded
        rfl
      change (boundedInteger x >>= fun i => .ok (Value.int i)) = .ok value at reported
      rw [bounded] at reported
      cases reported
      subst same
      exact ⟨.int x, rfl, fun name => rfl⟩
  | amount =>
    change (do
      let _ ← boundedInteger (Rat.num x)
      let _ ← boundedInteger (Rat.den x)
      if (Binary64.ofRat x).isFinite then .ok (Value.float (.ofRat x))
        else .error .quotientTooLarge) = .ok value at reported
    cases num : boundedInteger (Rat.num x) with
    | error fault => simp [num] at reported
    | ok _ =>
      cases den : boundedInteger (Rat.den x) with
      | error fault => simp [num, den] at reported
      | ok _ =>
        rw [num, den, ok_bind, ok_bind] at reported
        split at reported
        · next finite =>
          cases reported
          obtain ⟨q, decimal, -⟩ := Binary64.exists_decimalValue finite
          have read : Value.toFraction (.float (.ofRat x)) = .ok q := by
            unfold Value.toFraction Value.toBinary64
            rw [ok_bind, decimal]
          have restated_eq : VariableSort.real.restated x = q := by
            change ((Binary64.ofRat x).decimalValue?).getD x = q
            rw [decimal]
            rfl
          refine ⟨.real (.ofRat x), rfl, fun name => ?_⟩
          change (Value.toFraction (.float (.ofRat x)) >>=
            fun q => .ok (VariableSort.real.equals name q)) =
              .ok (VariableSort.real.equals name (VariableSort.real.restated x))
          rw [read, restated_eq]
          rfl
        · cases reported

namespace Constraint

variable {c : Constraint} {values : FieldValues} {es : List (Expr .bool)}
  {entries : List ModelEntry} {model witness : Model} {d : Decider} {timeout : Timeout}

theorem sort_eq_of_declares {name : String} {kind : Kind} {s : VariableSort}
    (entry : (name, kind) ∈ c.kinds.entries) (declared : c.Declares (s, name)) : s = kind.sort := by
  obtain ⟨other, there, same⟩ := declared
  have first := Assoc.get?_eq_some_iff.2 there
  rw [Assoc.get?_eq_some_iff.2 entry] at first
  cases first
  exact same.symm

/-! ## Where a witness comes from -/

theorem witness_finding {answer : Answer} (unsat : answer.verdict = .unsatisfiable)
    (observed : Observed) (witness : Option Model) :
    (c.finding observed answer witness).witness = witness := by
  unfold finding
  rw [unsat]

theorem violated_of_witness {j : Judge} {witnessed : Bool}
    (there : (c.concluded j witnessed timeout values).witness = some witness) :
    (c.concluded j witnessed timeout values).outcome = .violated := by
  cases examined : c.examined j witnessed timeout values with
  | error fault =>
    rw [concluded_of_error examined] at there
    cases there
  | ok result =>
    rw [concluded_of_ok examined] at there ⊢
    rw [outcome_finding_eq_violated_iff]
    unfold finding at there
    cases verdict : result.1.verdict with
    | unsatisfiable => rfl
    | satisfiable | unknown =>
      rw [verdict] at there
      cases there

/-- After a contradiction there is a witness when the assertions alone have a model that can be
reported. -/
theorem witness_contradicted_iff {answer : Answer} (expressed : c.expressions = .ok es)
    (answered : d.answerOn timeout (es ++ c.bound values) = .ok answer)
    (unsat : answer.verdict = .unsatisfiable) :
    (c.concluded d.judge true timeout values).witness = some witness ↔
      ∃ entries model, (d timeout.milliseconds es).holds = some true ∧
        (d timeout.milliseconds es).model = some entries ∧ Model.ofEntries entries = .ok model ∧
        witness = model.restrict c.fields := by
  have asked := examined_asked expressed answered unsat
  constructor
  · intro there
    cases found : d.answerOn timeout es with
    | error fault =>
      rw [concluded_of_error (by rw [asked, found]; rfl)] at there
      cases there
    | ok second =>
      rw [concluded_of_ok (by rw [asked, found]; rfl), witness_finding unsat] at there
      split at there
      · next sat =>
        obtain ⟨model, shown, same⟩ := Option.map_eq_some_iff.1 there
        obtain ⟨said, entries, there, made⟩ :=
          Response.answer_satisfiable_iff.1 ⟨second, found, eq_of_beq sat, shown⟩
        exact ⟨entries, model, said, there, made, same.symm⟩
      · cases there
  · rintro ⟨entries, model, said, there, made, rfl⟩
    obtain ⟨second, found, sat, shown⟩ :=
      Response.answer_satisfiable_iff.2 ⟨said, entries, there, made⟩
    have found : d.answerOn timeout es = .ok second := found
    rw [found] at asked
    rw [concluded_of_ok asked, witness_finding unsat, sat, shown]
    rfl

/-- There is a witness when one is asked for, the record's values contradict the assertions, and the
assertions alone have a model that can be reported. The witness is what is reported of the
constraint's own variables. -/
theorem witness_concluded_iff {witnessed : Bool} :
    (c.concluded d.judge witnessed timeout values).witness = some witness ↔
      witnessed = true ∧ ∃ es answer, c.expressions = .ok es ∧
        d.answerOn timeout (es ++ c.bound values) = .ok answer ∧ answer.verdict = .unsatisfiable ∧
        ∃ entries model, (d timeout.milliseconds es).holds = some true ∧
          (d timeout.milliseconds es).model = some entries ∧ Model.ofEntries entries = .ok model ∧
          witness = model.restrict c.fields := by
  have faulty : ∀ {fault}, c.examined d.judge witnessed timeout values = .error fault →
      (c.concluded d.judge witnessed timeout values).witness = none := fun failed => by
    rw [concluded_of_error failed]
    rfl
  cases expressed : c.expressions with
  | error fault =>
    rw [faulty (by rw [examined_eq, expressed]; rfl)]
    simp
  | ok es =>
    cases answered : d.answerOn timeout (es ++ c.bound values) with
    | error fault =>
      rw [faulty (by rw [examined_eq, expressed, ok_bind, answered]; rfl)]
      simp [answered]
    | ok answer =>
      by_cases again : (witnessed && answer.verdict == .unsatisfiable) = true
      · obtain ⟨rfl, unsat⟩ : witnessed = true ∧ answer.verdict = .unsatisfiable := by
          simpa using again
        rw [witness_contradicted_iff expressed answered unsat]
        simp [answered, unsat]
      · rw [concluded_of_ok (examined_once expressed answered (by simpa using again)),
          witness_finding_none]
        simp only [reduceCtorEq, false_iff]
        rintro ⟨rfl, _, _, same, answered', unsat, -⟩
        cases same
        rw [answered] at answered'
        cases answered'
        exact again (by simp [unsat])

theorem Closed.exists_witness (closed : c.Closed) (sound : d.Sound) (decides : d.DecidesPinned)
    (nonzero : c.NonzeroDivisors values) (violated : c.direct values = .violated)
    (expressed : c.expressions = .ok es) (sat : (d timeout.milliseconds es).holds = some true)
    (shown : (d timeout.milliseconds es).model = some entries)
    (made : Model.ofEntries entries = .ok model) :
    (c.concluded d.judge true timeout values).witness = some (model.restrict c.fields) := by
  obtain ⟨answer, answered, verdict⟩ :=
    answerOn_bound (closed es expressed) sound decides (nonzero es expressed) timeout
  have unsat : answer.verdict = .unsatisfiable := by
    rw [direct, expressed] at violated
    dsimp only at violated
    rw [verdict, if_neg]
    intro all
    rw [if_pos all] at violated
    cases violated
  exact (witness_contradicted_iff expressed answered unsat).2 ⟨entries, model, sat,
    shown, made, rfl⟩

/-! ## Binding a witness again -/

/-- Each variable that a witness has a value for is bound to it. -/
def GivesBack (c : Constraint) (witness : Model) (w : Valuation) : Prop :=
  ∀ name kind typed, (name, kind) ∈ c.kinds.entries → witness.get? name = some (.ofTyped typed) →
    ∀ e, kind.binding name typed = .ok e → e.eval w = true

section Plain

variable (closed : ∀ e ∈ es, e.Over c.Declares) (isModel : IsModel entries es)
  (plain : IsPlain entries) (made : Model.ofEntries entries = .ok model)
include closed isModel plain made

/-- A witness reports the entries of the declared variables, and nothing else. -/
theorem get?_witness {name : String} {kind : Kind} (entry : (name, kind) ∈ c.kinds.entries)
    {value : Value} :
    (model.restrict c.fields).get? name = some value ↔
      ∃ x, .value kind.sort name x ∈ entries ∧ kind.sort.reported x = .ok value := by
  have mine : name ∈ c.fields := List.mem_map.2 ⟨(name, kind), entry, rfl⟩
  have reported : ∀ value, model.get? name = some value →
      ∃ x, .value kind.sort name x ∈ entries ∧ kind.sort.reported x = .ok value := by
    intro value there
    obtain ⟨found, mem, named, report⟩ := Model.exists_entry_of_get? made there
    obtain ⟨s, name', x, -, rfl⟩ := plain found mem
    obtain rfl : name' = name := named
    obtain ⟨e, inEs, occurs⟩ := isModel.occurs s name' x mem
    obtain rfl := sort_eq_of_declares entry (closed e inEs _ occurs)
    exact ⟨x, mem, report⟩
  have distinct : c.fields.Nodup := c.kinds.nodup_keys
  rw [model.get?_restrict distinct mine]
  refine ⟨reported value, ?_⟩
  rintro ⟨x, mem, report⟩
  obtain ⟨value', there⟩ := Model.exists_get?_ofEntries made mem
  obtain ⟨x', mem', report'⟩ := reported value' there
  -- a variable has one value in the model
  obtain ⟨v, agrees⟩ := isModel.consistent
  obtain rfl : x' = x := (agrees _ _ _ mem').symm.trans (agrees _ _ _ mem)
  exact there.trans (congrArg some (Except.ok.inj (report'.symm.trans report)))

theorem binding_witness {name : String} {kind : Kind} (entry : (name, kind) ∈ c.kinds.entries)
    {x : kind.sort.Carrier} (mem : .value kind.sort name x ∈ entries) : ∃ typed,
      (model.restrict c.fields).get? name = some (.ofTyped typed) ∧
        kind.binding name typed = .ok (kind.sort.equals name (kind.sort.restated x)) := by
  obtain ⟨value, report⟩ := Model.exists_ofEntries_iff.1 ⟨model, made⟩ _ mem
  obtain ⟨typed, rfl, binds⟩ := kind.binding_of_reported report
  exact ⟨typed, (get?_witness closed isModel plain made entry).2 ⟨x, mem, report⟩, binds name⟩

/-- The values of the model give the witness back when they are reported and bound again. -/
theorem givesBack_restated {v : Valuation} (agrees : v.Agrees entries) :
    c.GivesBack (model.restrict c.fields) v.restated := by
  intro name kind typed entry there e binds
  obtain ⟨x, mem, -⟩ := (get?_witness closed isModel plain made entry).1 there
  obtain ⟨typed', there', binds'⟩ := binding_witness closed isModel plain made entry mem
  have same : typed' = typed := Value.ofTyped_injective (Option.some.inj (there'.symm.trans there))
  rw [← same, binds'] at binds
  cases binds
  rw [← agrees _ _ _ mem]
  exact Expr.eval_equals_self kind.sort_ne_text v.restated name

/-- Whatever gives a witness back restates the model's values. -/
theorem GivesBack.exists_restates {back : Valuation}
    (gives : c.GivesBack (model.restrict c.fields) back) :
    ∃ found, back.Restates found entries := by
  classical
  obtain ⟨v, agrees⟩ := isModel.consistent
  refine ⟨fun s name => if ∃ x, .value s name x ∈ entries then v s name else back s name, ?_, ?_⟩
  · intro s name x mem
    obtain ⟨e, inEs, occurs⟩ := isModel.occurs s name x mem
    obtain ⟨kind, entry, same⟩ := closed e inEs _ occurs
    dsimp only at same entry
    subst same
    obtain ⟨typed, there, binds⟩ := binding_witness closed isModel plain made entry mem
    refine ⟨(if_pos ⟨x, mem⟩).trans (agrees _ _ _ mem), ?_⟩
    exact Expr.pin?_sound (Expr.pin?_equals kind.sort_ne_text name _)
      (gives name kind typed entry there _ binds)
  · intro s name none
    exact (if_neg (not_exists.2 none)).symm

end Plain

theorem holds_of_restates {back found : Valuation} (closed : ∀ e ∈ es, e.Over c.Declares)
    (isModel : IsModel entries es) (plain : IsPlain entries)
    (restates : back.Restates found entries) (nonzero : ∀ e ∈ es, e.NonzeroDivisors found) :
    ∀ e ∈ es, e.eval found = true := by
  intro e mem
  refine isModel.holds e mem ?_ found (fun s name x there => (restates.witnessed s name x there).1)
    (nonzero e mem)
  rintro x occurs (text | ⟨⟨text, shown⟩, -⟩)
  · obtain ⟨kind, -, same⟩ := closed e mem x occurs
    exact kind.sort_ne_text (same.trans text)
  · obtain ⟨s, name, value, -, same⟩ := plain _ shown
    cases same

/-- Where no amount is changed by being reported, they are the values that are bound. -/
theorem eq_of_restates {back found : Valuation} (restates : back.Restates found entries)
    (unchanged : ∀ name x, .value .real name x ∈ entries → VariableSort.real.restated x = x) :
    back = found := by
  funext s name
  by_cases known : ∃ x, .value s name x ∈ entries
  · obtain ⟨x, mem⟩ := known
    obtain ⟨same, restated⟩ := restates.witnessed s name x mem
    rw [restated, same]
    by_cases amount : s = .real
    · subst amount
      exact unchanged name x mem
    · exact VariableSort.restated_of_ne amount x
  · exact restates.other s name (not_exists.1 known)

end Constraint

/-- A witness of a constraint over its own variables reports a model of its assertions, with the
value of every declared variable that the model has one for. Values that give the witness back when
it is bound again are those of the model, but every amount is rounded to the decimal of the nearest
floating-point number, and variables that the model leaves out may have any values. The values
before the rounding make all assertions true. So do the bound ones, if the rounding changes no
amount. This holds of models that consist of values, as those of elementary assertions do, where
nothing is divided by zero. -/
theorem witness_read_back {σ : Type} {m : Surroundings σ} {d : Decider} {clean : σ → Prop}
    (keeps : m.Keeps d.judge.replies clean) (sound : d.Sound) {w : World σ} (rest : w.AtRest clean)
    (t : TaskId) (settings : SolverSettings) (timeout : Timeout) :
    ∃ finding : FieldValues → Constraint → ConstraintFinding,
      (∀ r cs specs, (w.checkAlone m t settings timeout r cs specs).1 =
        some (r.onTexts fun values => (cs ++ compileFieldRules specs).map (finding values))) ∧
      ∀ values c, c.Closed → ∀ witness, (finding values c).witness = some witness →
        ∃ es entries, c.expressions = .ok es ∧ IsModel entries es ∧
          (d.DecidesElementary → (∀ e ∈ es, e.Elementary) →
            IsPlain entries ∧ ∀ v, ∀ e ∈ es, e.NonzeroDivisors v) ∧
          (IsPlain entries →
            (∀ name kind, (name, kind) ∈ c.kinds.entries →
              (∀ x, .value kind.sort name x ∈ entries →
                ∃ typed, witness.get? name = some (.ofTyped typed) ∧
                  kind.binding name typed = .ok (kind.sort.equals name (kind.sort.restated x))) ∧
              ((∀ x, .value kind.sort name x ∉ entries) → witness.get? name = none)) ∧
            (∃ back, c.GivesBack witness back) ∧
            ∀ back, c.GivesBack witness back → ∃ found, back.Restates found entries ∧
              ((∀ e ∈ es, e.NonzeroDivisors found) → (∀ e ∈ es, e.eval found = true) ∧
                ((∀ name x, .value .real name x ∈ entries → VariableSort.real.restated x = x) →
                  ∀ e ∈ es, e.eval back = true))) := by
  refine ⟨_, fun r cs specs => (World.checkAlone_eq keeps rest t settings timeout r cs specs).1,
    fun values c closed witness there => ?_⟩
  obtain ⟨-, es, answer, expressed, -, -, entries, model, sat, shown, made, rfl⟩ :=
    Constraint.witness_concluded_iff.1 there
  obtain ⟨entries', shown', isModel⟩ := (sound _ es).sat sat
  obtain rfl := Option.some.inj (shown.symm.trans shown')
  have own := closed es expressed
  refine ⟨es, entries, expressed, isModel, fun decides elementary => ?_, fun plain =>
    ⟨fun name kind entry => ?_, ?_, fun back gives => ?_⟩⟩
  · exact ⟨(decides _ es elementary).2 entries shown, fun v e mem =>
      (elementary e mem).nonzeroDivisors⟩
  · refine ⟨fun x mem => Constraint.binding_witness own isModel plain made entry mem,
      fun none => ?_⟩
    by_contra some
    obtain ⟨value, there⟩ := Option.ne_none_iff_exists'.1 some
    obtain ⟨x, mem, -⟩ := (Constraint.get?_witness own isModel plain made entry).1 there
    exact none x mem
  · obtain ⟨v, agrees⟩ := isModel.consistent
    exact ⟨_, Constraint.givesBack_restated own isModel plain made agrees⟩
  · obtain ⟨found, restates⟩ := gives.exists_restates own isModel plain made
    refine ⟨found, restates, fun nonzero => ?_⟩
    have holds := Constraint.holds_of_restates own isModel plain restates nonzero
    exact ⟨holds, fun unchanged => Constraint.eq_of_restates restates unchanged ▸ holds⟩

/-- Three times an absent amount has to be one. What is reported is the floating-point number
nearest to a third, and three times its decimal is less than one. -/
theorem witness_read_back_third :
    let third : Expr .bool :=
      .compare .eq (.arith .mul (.const (3 : Rat)) (.var .real "x")) (.const (s := .real) (1 : Rat))
    let c : Constraint :=
      ⟨"c", "C", "c holds", .error, .ofList [("x", .amount)], fun _ =>
        .ok (.one (.expr .bool third))⟩
    ∃ finding witness, ((World.empty : World AssertionStack).checkAlone
        (.fresh AssertionStack.backend .empty false) 0 ⟨5000, by decide, true⟩ none .empty [c]
          []).1 = some (.ok [finding]) ∧
      finding.outcome = .violated ∧ finding.witness = some witness ∧
      (∃ back, c.GivesBack witness back) ∧
      ∀ back, c.GivesBack witness back → third.eval back = false := by
  intro third c
  have declared : ("x", Kind.amount) ∈ c.kinds.entries := List.mem_singleton.2 rfl
  have expressed : c.expressions = .ok [third] := rfl
  have closed : c.Closed := Constraint.closed_of_build (.ok fun x mem => by
    rw [List.mem_singleton.1 mem]
    exact ⟨.amount, declared, rfl⟩)
  have eval_iff : ∀ v : Valuation, third.eval v = true ↔ (v .real "x" : Rat) = 1 / 3 := by
    intro v
    change Numeric.compare .real .eq ((3 : Rat) * v .real "x") (1 : Rat) = true ↔ _
    rw [Numeric.compare_eq_iff]
    constructor
    · intro same
      linarith
    · intro same
      rw [same]
      norm_num
  have elementary : ∀ e ∈ [third], e.Elementary := fun e mem => by
    rw [List.mem_singleton.1 mem]
    exact .compare .eq (.scaledBy (.const _) .var) (.literal (.const _))
  have nonzero : c.NonzeroDivisors .empty := fun es same e mem =>
    (elementary e (Except.ok.inj (expressed.symm.trans same) ▸ mem)).nonzeroDivisors
  have violated : c.direct .empty = .violated := by
    have absent : (c.valuation .empty .real "x" : Rat) = 0 :=
      (Constraint.valuation_of_mem declared).trans Kind.exact_amount_none
    have fails : third.eval (c.valuation .empty) = false := by
      rw [Bool.eq_false_iff, ne_eq, eval_iff, absent]
      norm_num
    rw [Constraint.direct, expressed]
    simp [fails]
  obtain ⟨found, decided, holds⟩ := exists_satisfied elementary fun e mem => by
    rw [List.mem_singleton.1 mem]
    exact (eval_iff (Valuation.zero.set .real "x" (1 / 3 : Rat))).2 (Valuation.set_self ..)
  have response : AssertionStack.decider 5000 [third] =
      ⟨some true, some (AssertionStack.entries [(.real, "x")] found), "incomplete"⟩ := by
    unfold AssertionStack.decider
    rw [decided]
    rfl
  obtain ⟨model, made⟩ : ∃ model, Model.ofEntries (AssertionStack.entries [(.real, "x")] found) =
      .ok model := by
    have foundThird := (eval_iff found).1 (holds third (List.mem_singleton.2 rfl))
    refine Model.exists_ofEntries_iff.2 (List.forall_mem_singleton.2 ?_)
    rw [ModelEntry.reported, foundThird]
    exact isOk_iff.1 (VariableSort.isOk_reported_of_lt
      (by simp [Int.natAbs_sign_of_ne_zero]) (by simp))
  obtain ⟨finding, checked, back⟩ :=
    witness_read_back (AssertionStack.keeps_fresh false) AssertionStack.sound_decider (.empty _) 0
      ⟨5000, by decide, true⟩ none
  have checked := checked .empty [c] []
  have finding_eq : finding .empty c = AssertionStack.decider.judge.finding ⟨5000, by decide, true⟩
      none .empty c := by
    have alone := (World.checkAlone_eq (AssertionStack.keeps_fresh false) (.empty _) 0
      ⟨5000, by decide, true⟩ none .empty [c] []).1
    exact (List.cons.inj (Except.ok.inj (Option.some.inj (checked.symm.trans alone)))).1
  have witnessed : (finding .empty c).witness = some (model.restrict c.fields) := by
    rw [finding_eq]
    exact closed.exists_witness AssertionStack.sound_decider AssertionStack.decidesPinned_decider
      nonzero violated expressed (congrArg Response.holds response)
        (congrArg Response.model response) made
  have outcome : (finding .empty c).outcome = .violated := by
    rw [finding_eq] at witnessed ⊢
    exact Constraint.violated_of_witness witnessed
  have decimal : VariableSort.real.restated (1 / 3 : Rat) = (3333333333333333 / 10 ^ 16 : Rat) := by
    change ((Binary64.ofRat (1 / 3)).decimalValue?).getD (1 / 3 : Rat) = 3333333333333333 / 10 ^ 16
    decide +kernel
  obtain ⟨es, entries, expressed', isModel, known, read⟩ := back .empty c closed _ witnessed
  obtain rfl := Except.ok.inj (expressed.symm.trans expressed')
  obtain ⟨plain, nonzero⟩ := known AssertionStack.decidesElementary_decider elementary
  obtain ⟨names, gives, restates⟩ := read plain
  refine ⟨finding .empty c, _, checked, outcome, witnessed, gives, fun w again => ?_⟩
  have isThird : ∀ found : Valuation, (∀ e ∈ [third], e.eval found = true) →
      (found .real "x" : Rat) = 1 / 3 :=
    fun found holds => (eval_iff found).1 (holds third List.mem_cons_self)
  -- if the model left the variable out, the assertion would be true with any value of it
  obtain ⟨x, inModel⟩ : ∃ x, .value .real "x" x ∈ entries := by
    by_contra none
    have gives' : c.GivesBack (model.restrict c.fields) (w.set .real "x" (0 : Rat)) := by
      intro name kind typed entry there
      obtain ⟨rfl, rfl⟩ := Prod.mk.inj (List.mem_singleton.1 entry)
      rw [(names "x" .amount declared).2 (not_exists.1 none)] at there
      cases there
    obtain ⟨found', same, evaluated⟩ := restates _ gives'
    have third' := isThird _ (evaluated (nonzero found')).1
    rw [← same.other .real "x" (not_exists.1 none), Valuation.set_self] at third'
    norm_num at third'
  obtain ⟨found', same, evaluated⟩ := restates w again
  have third' := isThird _ (evaluated (nonzero found')).1
  obtain ⟨rfl, restated⟩ := same.witnessed .real "x" x inModel
  rw [Bool.eq_false_iff, ne_eq, eval_iff, restated, third', decimal]
  norm_num

end RecordAudit
