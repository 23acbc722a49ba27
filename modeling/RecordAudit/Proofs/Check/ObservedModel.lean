import RecordAudit.Proofs.Check.WitnessReadBack
import RecordAudit.Proofs.Number.ShortestDecimal

/-!
# The model of a check reports what was observed

Every value that is read can be given to the solver and is reported as it was: truth values and
integers as they are, an amount as the same floating-point number, although the solver works with
the fraction that its shortest decimal writes. Only the sign of zero is lost. A check binds all
variables, so its model reports the observed values.
-/

namespace RecordAudit

open Reading Number

/-! ## Values that come back -/

/-- The value without the sign of zero. -/
def Value.unsignedZero : Value → Value
  | .float x => .float x.unsignedZero
  | v => v

/-- What is read for a kind is reported as the same value of the same type. -/
theorem Reading.Kind.reported_read (kind : Kind) (raw : Option String) :
    kind.sort.reported (kind.exact raw) = .ok (Value.ofTyped (kind.read raw)).unsignedZero := by
  cases kind with
  | flag | presence => rfl
  | count =>
    change (boundedInteger (readCount raw) >>= _) = _
    rw [boundedInteger_eq (digitCount_readCount_le raw)]
    rfl
  | date =>
    change (boundedInteger (Calendar.readDay raw) >>= _) = _
    rw [boundedInteger_eq (digitCount_readDay_le raw)]
    rfl
  | amount =>
    obtain ⟨q, value, num, den, finite⟩ := Binary64.exists_decimalValue (isFinite_readAmount raw)
    have exact_eq : q = Kind.amount.exact raw :=
      Option.some.inj (value.symm.trans (decimalValue?_readAmount raw))
    subst exact_eq
    refine (VariableSort.reported_real num den finite).trans ?_
    rw [Binary64.ofRat_decimalValue value]
    rfl

/-! ## Models of checks -/

/-- The model reports the observed values, and nothing else. -/
def Model.Reports (m : Model) (observed : Observed) : Prop :=
  ∀ name, m.get? name = (observed.get? name).map fun o => o.value.unsignedZero

namespace Constraint

variable {c : Constraint} {values : FieldValues} {es : List (Expr .bool)}
  {entries : List ModelEntry} {model : Model} {d : Decider} {timeout : Timeout}

theorem get?_observe (c : Constraint) (values : FieldValues) (name : String) :
    (c.observe values).get? name =
      (c.kinds.get? name).map fun kind =>
        ⟨values.raw? name, .ofTyped (kind.read (values.raw? name))⟩ := by
  ext o
  simp only [Option.map_eq_some_iff, Assoc.get?_eq_some_iff]
  constructor
  · intro mem
    obtain ⟨⟨name', kind⟩, entry, same⟩ := List.mem_map.1 mem
    obtain ⟨rfl, rfl⟩ := Prod.mk.inj same
    exact ⟨kind, entry, rfl⟩
  · rintro ⟨kind, entry, rfl⟩
    exact List.mem_map.2 ⟨(name, kind), entry, rfl⟩

theorem mem_bound {name : String} {kind : Kind} (entry : (name, kind) ∈ c.kinds.entries) :
    kind.sort.equals name (kind.exact (values.raw? name)) ∈ c.bound values :=
  List.mem_map.2 ⟨(name, kind), entry, rfl⟩

theorem elementary_bound : ∀ e ∈ c.bound values, e.Elementary := by
  intro e mem
  obtain ⟨⟨name, kind⟩, -, rfl⟩ := List.mem_map.1 mem
  exact .equals kind.sort_ne_text _ _

section Bound

variable (closed : ∀ e ∈ es, e.Over c.Declares) (isModel : IsModel entries (es ++ c.bound values))
  (made : Model.ofEntries entries = .ok model)
include closed isModel

theorem exists_kind_of_value {s : VariableSort} {name : String} {x : s.Carrier}
    (mem : .value s name x ∈ entries) :
    ∃ kind, (name, kind) ∈ c.kinds.entries ∧
      s.reported x = .ok (Value.ofTyped (kind.read (values.raw? name))).unsignedZero := by
  obtain ⟨⟨e, inEs, occurs⟩, rfl⟩ := (isModel.value_of_pinned (pinnedBy_bound closed values)).1 mem
  obtain ⟨kind, entry, same⟩ := declares_of_mem closed inEs occurs
  dsimp only at same entry
  subst same
  rw [valuation_of_mem entry]
  exact ⟨kind, entry, kind.reported_read _⟩

include made

/-- With the variables bound, a model reports what was observed for a variable, unless something else
is shown under its name. -/
theorem reported_of_bound {name : String} {kind : Kind} (entry : (name, kind) ∈ c.kinds.entries)
    (only : ∀ text, .other name text ∉ entries) :
    model.get? name = some (Value.ofTyped (kind.read (values.raw? name))).unsignedZero := by
  have there := isModel.pinned kind.sort name _ kind.sort_ne_text
    (List.mem_append_right es (mem_bound entry))
  obtain ⟨value, given⟩ := Model.exists_get?_ofEntries made there
  obtain ⟨found, mem, named, reported⟩ := Model.exists_entry_of_get? made given
  cases found with
  | other name' text =>
    obtain rfl : name' = name := named
    exact absurd mem (only text)
  | value s name' x =>
    obtain rfl : name' = name := named
    obtain ⟨kind', entry', same⟩ := exists_kind_of_value closed isModel mem
    have one := Assoc.get?_eq_some_iff.2 entry'
    rw [Assoc.get?_eq_some_iff.2 entry] at one
    cases one
    exact given.trans (congrArg some (Except.ok.inj (reported.symm.trans same)))

/-- A model of values reports what was observed, and nothing else. -/
theorem reports_of_bound (plain : IsPlain entries) : model.Reports (c.observe values) := by
  have only : ∀ name text, .other name text ∉ entries := fun name text mem => by
    obtain ⟨s, name', x, -, same⟩ := plain _ mem
    cases same
  intro name
  rw [get?_observe]
  cases declared : c.kinds.get? name with
  | some kind =>
    exact reported_of_bound closed isModel made (Assoc.get?_eq_some_iff.1 declared) (only name)
  | none =>
    cases given : model.get? name with
    | none => rfl
    | some value =>
      obtain ⟨found, mem, named, -⟩ := Model.exists_entry_of_get? made given
      obtain ⟨s, name', x, -, rfl⟩ := plain found mem
      obtain rfl : name' = name := named
      obtain ⟨kind, entry, -⟩ := exists_kind_of_value closed isModel mem
      rw [Assoc.get?_eq_some_iff.2 entry] at declared
      cases declared

end Bound

/-- A check whose assertions are true of the observed values has a model. -/
theorem exists_model_of_satisfied (sound : d.Sound) (decides : d.DecidesPinned) (closed : c.Closed)
    (nonzero : c.NonzeroDivisors values) (satisfied : c.direct values = .satisfied)
    (witnessed : Bool) (timeout : Timeout) :
    ∃ model, c.examined d.judge witnessed timeout values =
      .ok (⟨.satisfiable, some model, none⟩, none) := by
  rw [direct] at satisfied
  cases expressed : c.expressions with
  | error fault =>
    rw [expressed] at satisfied
    cases satisfied
  | ok es =>
    rw [expressed] at satisfied
    dsimp only at satisfied
    split at satisfied
    · next whole =>
      obtain ⟨answer, answered, verdict⟩ :=
        answerOn_bound (closed es expressed) sound decides (nonzero es expressed) timeout
      rw [if_pos whole] at verdict
      obtain ⟨model, rfl⟩ := (sound _ _).exists_model answered verdict
      refine ⟨model, ?_⟩
      rw [examined_eq, expressed, ok_bind, answered]
      simp only [ok_bind, Bool.and_eq_true, beq_iff_eq, reduceCtorEq, and_false, if_false]
      rfl
    · cases satisfied

end Constraint

/-! ## The theorem -/

/-- Examines a constraint in a session, as the only task. -/
def World.examineAlone {σ : Type} (m : Surroundings σ) (t : TaskId) (c : Constraint)
    (witnessed : Bool) (timeout : Timeout) (values : FieldValues) (w : World σ) :
    Option (Except Interrupt (Answer × Option Model)) :=
  (w.runAlone m t (do let s ← Session.get; c.examine s witnessed timeout values).run).1

theorem World.examineAlone_eq {σ : Type} {m : Surroundings σ} {j : Judge} {clean : σ → Prop}
    (keeps : m.Keeps j.replies clean) {w : World σ} (rest : w.AtRest clean) (t : TaskId)
    (c : Constraint) (witnessed : Bool) (timeout : Timeout) (values : FieldValues) :
    w.examineAlone m t c witnessed timeout values =
      some ((c.examined j witnessed timeout values).mapError .fault) := by
  have start : Consistent m.toMachine j.replies clean w.callsOn w fun _ => .idle [] :=
    rest.consistent nofun
  have examines : (do let s ← Session.get; c.examine s witnessed timeout values : TaskM _).wp
      j.replies (.idle []) fun result _ => result =
          (c.examined j witnessed timeout values).mapError .fault := by
    rw [TaskM.wp_bind]
    refine Session.wp_get rfl fun s st' idle known _ => ?_
    exact TaskM.wp_mono (fun _ _ h => h.1) (wp_examine c witnessed timeout values idle known)
  obtain ⟨result, -, ended, rfl, -⟩ :=
    World.runAlone_fits (t := t) keeps start (fun _ _ => rfl) examines
  exact ended

/-- For every raw text and kind, what is read can be given to the solver, which reports it as the
same value of the same type; an amount is the same floating-point number, but for the sign of zero.
So when the check of a constraint over its own variables has a model, the model reports the observed
values, unless the solver shows something else under the name of a variable; a model of values, as
elementary assertions have, reports nothing else. The check has a model when the assertions are true
of the observed values and nothing is divided by zero. -/
theorem observed_values_reported {σ : Type} {m : Surroundings σ} {d : Decider} {clean : σ → Prop}
    (keeps : m.Keeps d.judge.replies clean) (sound : d.Sound) (decides : d.DecidesPinned)
    {w : World σ} (rest : w.AtRest clean) (t : TaskId) :
    (∀ (kind : Kind) (raw : Option String), ∃ x, kind.sortValue (.ofTyped (kind.read raw)) = .ok x ∧
        kind.sort.reported x = .ok (Value.ofTyped (kind.read raw)).unsignedZero) ∧
      ∀ (c : Constraint) (witnessed : Bool) (timeout : Timeout) (values : FieldValues), c.Closed →
        let examined := w.examineAlone m t c witnessed timeout values
        (∀ answer witness model, examined = some (.ok (answer, witness)) →
          answer.model = some model → ∃ es entries, c.expressions = .ok es ∧
            IsModel entries (es ++ c.bound values) ∧ Model.ofEntries entries = .ok model ∧
            (∀ name kind, (name, kind) ∈ c.kinds.entries → (∀ text, .other name text ∉ entries) →
              model.get? name = some (Value.ofTyped (kind.read (values.raw? name))).unsignedZero) ∧
            (IsPlain entries → model.Reports (c.observe values)) ∧
            (d.DecidesElementary → (∀ e ∈ es, e.Elementary) → model.Reports (c.observe values))) ∧
          (c.NonzeroDivisors values → c.direct values = .satisfied →
            ∃ model, examined = some (.ok (⟨.satisfiable, some model, none⟩, none))) := by
  refine ⟨fun kind raw => ⟨_, kind.sortValue_read raw, kind.reported_read raw⟩,
    fun c witnessed timeout values closed => ?_⟩
  dsimp only
  rw [World.examineAlone_eq keeps rest]
  constructor
  · intro answer witness model result there
    cases examined : c.examined d.judge witnessed timeout values with
    | error fault =>
      rw [examined] at result
      cases result
    | ok found =>
      rw [examined] at result
      cases result
      obtain ⟨es, expressed, answered, -⟩ := Constraint.answers_of_examined examined
      obtain ⟨known, entries, shown, made⟩ := Response.exists_entries_of_answer answered there
      have isModel := ((sound _ _).isModel known shown).2
      have own := closed es expressed
      refine ⟨es, entries, expressed, isModel, made,
        fun name kind entry only => Constraint.reported_of_bound own isModel made entry only,
        fun plain => Constraint.reports_of_bound own isModel made plain,
        fun decidesAll elementary => ?_⟩
      have all : ∀ e ∈ es ++ c.bound values, e.Elementary :=
        List.forall_mem_append.2 ⟨elementary, Constraint.elementary_bound⟩
      exact Constraint.reports_of_bound own isModel made ((decidesAll _ _ all).2 entries shown)
  · intro nonzero satisfied
    obtain ⟨model, examined⟩ :=
      Constraint.exists_model_of_satisfied sound decides closed nonzero satisfied witnessed timeout
    exact ⟨model, by rw [examined]; rfl⟩

/-- A count, an amount that is no fraction of a power of two, and a negative zero. -/
theorem observed_values_reported_fee :
    let long : Expr .bool := VariableSort.int.equals "term" (24 : Int)
    let c : Constraint := ⟨"c", "C", "c holds", .error,
      .ofList [("term", .count), ("fee", .amount), ("discount", .amount)],
      fun _ => .ok (.one (.expr .bool long))⟩
    let values : FieldValues :=
      .ofList [("term", some "24 months"), ("fee", some "$0.1"), ("discount", some "-0.0")]
    ∃ model, (World.empty : World AssertionStack).examineAlone
        (.fresh AssertionStack.backend .empty false) 0 c false none values =
          some (.ok (⟨.satisfiable, some model, none⟩, none)) ∧
      model.get? "term" = some (.int 24) ∧
      model.get? "fee" = some (.float (.finite false 0x3FB999999999999A (by decide))) ∧
      model.get? "discount" = some (.float (.zero false)) ∧ model.get? "rent" = none := by
  intro long c values
  have term : ("term", Kind.count) ∈ c.kinds.entries := by decide
  have closed : c.Closed := Constraint.closed_of_build (.ok fun x mem => by
    rw [List.mem_singleton.1 mem]
    exact ⟨.count, term, rfl⟩)
  have expressed : c.expressions = .ok [long] := rfl
  have satisfied : c.direct values = .satisfied := by
    have months : c.valuation values .int "term" = (24 : Int) :=
      (Constraint.valuation_of_mem term).trans (by decide : readCount (some "24 months") = 24)
    have holds := Expr.eval_equals_self (s := .int) nofun (c.valuation values) "term"
    rw [months] at holds
    rw [Constraint.direct, expressed]
    simp [long, holds]
  have elementary : ∀ e ∈ [long], e.Elementary :=
    List.forall_mem_singleton.2 (.equals (s := .int) nofun _ _)
  have nonzero : c.NonzeroDivisors values := fun es same e mem =>
    (elementary e (Except.ok.inj (expressed.symm.trans same) ▸ mem)).nonzeroDivisors
  obtain ⟨reports, answers⟩ := (observed_values_reported (AssertionStack.keeps_fresh false)
    AssertionStack.sound_decider AssertionStack.decidesPinned_decider (.empty _) 0).2 c false
      none values closed
  obtain ⟨model, examined⟩ := answers nonzero satisfied
  obtain ⟨es, entries, expressed', -, -, -, -, plainly⟩ := reports _ _ model examined rfl
  obtain rfl := Except.ok.inj (expressed.symm.trans expressed')
  have reported := plainly AssertionStack.decidesElementary_decider elementary
  have fee : (readAmount (some "$0.1")).unsignedZero =
      .finite false 0x3FB999999999999A (by decide) := by
    decide +kernel
  have discount : (readAmount (some "-0.0")).unsignedZero = .zero false := by decide +kernel
  have observed : ∀ name kind raw, c.kinds.get? name = some kind → values.raw? name = raw →
      model.get? name = some (Value.ofTyped (kind.read raw)).unsignedZero := fun name kind raw
          declared given => by
    rw [reported, Constraint.get?_observe, declared, given]
    rfl
  refine ⟨model, examined, observed "term" .count _ rfl rfl, ?_, ?_, ?_⟩
  · rw [observed "fee" .amount _ rfl rfl, ← fee]
    rfl
  · rw [observed "discount" .amount _ rfl rfl, ← discount]
    rfl
  · rw [reported, Constraint.get?_observe]
    rfl

end RecordAudit
