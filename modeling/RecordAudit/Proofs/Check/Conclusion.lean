import RecordAudit.Check.Basic
import RecordAudit.Proofs.Session.Operations
import RecordAudit.Proofs.Solver.Reported

/-!
# What a check concludes

The finding of a check as a function of the record's values and of what the backend says about
assertions. The finding of the task that makes the check in a shared session is this one.
-/

namespace RecordAudit

open TaskM Reading

/-- What a backend says about assertions: whether it takes one, and what it answers when some are
live. -/
structure Judge where
  takes : Operand → Except Fault Unit
  answers : Timeout → List Operand → Except Fault Answer

namespace Judge

/-- The replies of a backend that says this. -/
def replies (j : Judge) : Replies
  | _, .push, reply => reply = .ok ()
  | _, .pop, reply => reply = .ok ()
  | _, .add a, reply => reply = j.takes a
  | calls, .check timeout, reply => reply = j.answers timeout (liveAfter calls)

theorem steady_replies (j : Judge) : j.replies.Steady := ⟨id, id⟩

end Judge

namespace Constraint

/-- The assertions that bind variables to a record's values, if all of them are taken. -/
def bindings (j : Judge) (values : FieldValues) : List (String × Kind) → Except Fault (List Operand)
  | [] => .ok []
  | (name, kind) :: rest => do
    let binding ← kind.binding name (kind.read (values.raw? name))
    j.takes (.expr .bool binding)
    let others ← bindings j values rest
    return .expr .bool binding :: others

def answered (j : Judge) (c : Constraint) (timeout : Timeout) (values : FieldValues)
    (assertions : List Operand) : Except Fault Answer := do
  let bindings ← bindings j values c.kinds.entries
  j.answers timeout (assertions ++ bindings)

/-- Values that satisfy the constraint's assertions. -/
def foundWitness (j : Judge) (c : Constraint) (timeout : Timeout) (assertions : List Operand) :
    Except Fault (Option Model) := do
  let answer ← j.answers timeout assertions
  return if answer.verdict == .satisfiable then answer.model.map (·.restrict c.fields) else none

def examined (j : Judge) (c : Constraint) (witnessed : Bool) (timeout : Timeout)
    (values : FieldValues) :
    Except Fault (Answer × Option Model) := do
  let assertions ← c.assertions
  assertions.forM j.takes
  let answer ← c.answered j timeout values assertions
  let witness ←
    if witnessed && answer.verdict == .unsatisfiable then c.foundWitness j timeout assertions
    else pure none
  return (answer, witness)

def concluded (j : Judge) (c : Constraint) (witnessed : Bool) (timeout : Timeout)
    (values : FieldValues) :
    ConstraintFinding :=
  match c.examined j witnessed timeout values with
  | .ok (answer, witness) => c.finding (c.observe values) answer witness
  | .error fault => c.failedFinding fault

end Constraint

/-! ## Calls that add -/

theorem framesFrom_adds (f : List Operand) (fs : List (List Operand)) (as : List Operand) :
    framesFrom (f :: fs) (as.map .add) = (f ++ as) :: fs := by
  induction as generalizing f with
  | nil => simp
  | cons a rest ih => simp [Call.onFrames, ih]

theorem liveAfter_bound (as bs : List Operand) :
    liveAfter (.push :: as.map .add ++ [.push] ++ bs.map .add) = as ++ bs := by
  simp [liveAfter, framesAfter, Call.onFrames, framesFrom_adds]

theorem liveAfter_unbound (as bs : List Operand) (τ : Timeout) :
    liveAfter (.push :: as.map .add ++ [.push] ++ bs.map .add ++ [.check τ] ++ [.pop]) = as := by
  simp [liveAfter, framesAfter, Call.onFrames, framesFrom_adds]

/-! ## Tasks that check -/

section Rules

variable {α : Type} {j : Judge} {s : SessionId} {st : Stance} {n : Nat} {calls : List Call}

/-- A task inside a scope has added some assertions, or was stopped by a fault on the way. -/
def HasAdded (st : Stance) (s : SessionId) (n : Nat) (calls : List Call) :
    Except Fault (List Operand) → Except Interrupt Unit → Stance → Prop
  | .ok added, result, st' =>
    result = .ok () ∧ st' = st.holding (.scope s true (n + 1) (calls ++ added.map .add))
  | .error f, result, st' =>
    result = .error (.fault f) ∧ ∃ calls', st' = st.holding (.scope s true (n + 1) calls')

theorem HasAdded.cons {a : Operand} {expected : Except Fault (List Operand)}
    {result : Except Interrupt Unit} {st' : Stance}
    (h : HasAdded (st.holding (.scope s true (n + 1) (calls ++ [.add a]))) s n (calls ++ [.add a])
      expected result st') :
    HasAdded st s n calls (do let more ← expected; return a :: more) result st' := by
  cases expected with
  | ok added => exact ⟨h.1, by simpa using h.2⟩
  | error f => exact h

/-- Assertions are added up to the first that is not taken. -/
theorem wp_addAll (as : List Operand) (hold : st.hold = .scope s true (n + 1) calls) :
    (as.forM (Session.add s)).wp j.replies st
      (HasAdded st s n calls (do as.forM j.takes; return as)) := by
  induction as generalizing st calls with
  | nil => exact ⟨rfl, by simp [← hold]⟩
  | cons a rest ih =>
    have first : (a :: rest).forM j.takes = (do j.takes a; rest.forM j.takes) := rfl
    change (Session.add s a >>= fun _ => rest.forM (Session.add s)).wp _ _ _
    rw [TaskM.wp_bind, first]
    refine Session.wp_add hold ?_
    rintro reply rfl
    cases e : j.takes a with
    | error f => exact ⟨rfl, _, rfl⟩
    | ok u =>
      refine TaskM.wp_mono (fun result st' h => ?_) (ih rfl)
      have more := HasAdded.cons h
      cases taken : rest.forM j.takes <;> rw [taken] at more <;> exact more

/-- Variables are bound up to the first value that cannot be. -/
theorem wp_bindAll (values : FieldValues) (entries : List (String × Kind))
    (hold : st.hold = .scope s true (n + 1) calls) :
    (entries.forM fun (name, kind) => do
      Session.add s (.expr .bool
        (← ofExcept (kind.binding name (kind.read (values.raw? name)))))).wp j.replies st
          (HasAdded st s n calls (Constraint.bindings j values entries)) := by
  induction entries generalizing st calls with
  | nil => exact ⟨rfl, by simp [← hold]⟩
  | cons entry rest ih =>
    obtain ⟨name, kind⟩ := entry
    change TaskM.wp _ (_ >>= fun _ => rest.forM _) _ _
    rw [TaskM.wp_bind, TaskM.wp_bind, wp_ofExcept]
    cases bound : kind.binding name (kind.read (values.raw? name)) with
    | error f =>
      rw [Constraint.bindings, bound]
      exact ⟨rfl, calls, by simp [← hold]⟩
    | ok e =>
      have first : Constraint.bindings j values ((name, kind) :: rest) = (do
          j.takes (.expr .bool e)
          let others ← Constraint.bindings j values rest
          return .expr .bool e :: others) := by
        rw [Constraint.bindings, bound]
        rfl
      rw [first]
      refine Session.wp_add hold ?_
      rintro reply rfl
      cases j.takes (.expr .bool e) with
      | error f => exact ⟨rfl, _, rfl⟩
      | ok u => exact TaskM.wp_mono (fun result st' h => h.cons) (ih rfl)

/-- The solver's answer with the variables bound; afterwards only the constraint's own assertions
are live. -/
theorem wp_answer (c : Constraint) (timeout : Timeout) (values : FieldValues) (as : List Operand)
    (hold : st.hold = .scope s true 1 (.push :: as.map .add)) :
    (Session.frame s do c.bind s values; Session.check s timeout).wp j.replies st fun result st' =>
      ∃ calls', st' = st.holding (.scope s true 1 calls') ∧
        result = (c.answered j timeout values as).mapError .fault ∧
        ∀ answer, result = .ok answer → liveAfter calls' = as := by
  unfold Constraint.answered
  refine Session.wp_frame j.steady_replies hold ?_
  rw [TaskM.wp_bind]
  refine TaskM.wp_mono ?_ (wp_bindAll values c.kinds.entries rfl)
  intro result st' added
  cases bound : Constraint.bindings j values c.kinds.entries with
  | error f =>
    rw [bound] at added
    obtain ⟨rfl, calls', rfl⟩ := added
    exact ⟨calls', rfl, _, rfl, rfl, nofun⟩
  | ok bs =>
    rw [bound] at added
    obtain ⟨rfl, rfl⟩ := added
    refine Session.wp_check rfl ?_
    rintro answer rfl
    refine ⟨_, rfl, _, rfl, ?_, fun _ _ => liveAfter_unbound as bs timeout⟩
    rw [liveAfter_bound]
    rfl

/-- A second check sees the constraint's own assertions. -/
theorem wp_findWitness (c : Constraint) (timeout : Timeout) {as : List Operand}
    (hold : st.hold = .scope s true 1 calls) (live : liveAfter calls = as) :
    (c.findWitness s timeout).wp j.replies st fun result st' =>
      ∃ calls', st' = st.holding (.scope s true 1 calls') ∧
        result = (c.foundWitness j timeout as).mapError .fault := by
  unfold Constraint.findWitness Constraint.foundWitness
  rw [TaskM.wp_bind]
  refine Session.wp_check hold ?_
  rintro answer rfl
  rw [live]
  cases j.answers timeout as <;> exact ⟨_, rfl, rfl⟩

/-- What is examined for a constraint is what the backend says about it, whatever else there is. -/
theorem wp_examine (c : Constraint) (witnessed : Bool) (timeout : Timeout) (values : FieldValues)
    (hold : st.hold = .nothing) (known : s ∈ st.known) :
    (c.examine s witnessed timeout values).wp j.replies st fun result st' =>
      result = (c.examined j witnessed timeout values).mapError .fault ∧ st'.hold = .nothing ∧
        st'.known = st.known := by
  unfold Constraint.examine
  refine Session.wp_scope j.steady_replies hold known ?_
  rw [TaskM.wp_bind, wp_ofExcept]
  cases built : c.assertions with
  | error f =>
    have e : c.examined j witnessed timeout values = .error f := by
      simp only [Constraint.examined, built, error_bind]
    exact ⟨_, rfl, by rw [e]; rfl, rfl, rfl⟩
  | ok as =>
    refine (TaskM.wp_bind _ _ _).2 (TaskM.wp_mono ?_ (wp_addAll as rfl))
    intro result st' added
    cases taken : as.forM j.takes with
    | error f =>
      rw [taken] at added
      obtain ⟨rfl, calls', rfl⟩ := added
      have e : c.examined j witnessed timeout values = .error f := by
        simp only [Constraint.examined, built, taken, ok_bind, error_bind]
      exact ⟨calls', rfl, by rw [e]; rfl, rfl, rfl⟩
    | ok u =>
      rw [taken] at added
      obtain ⟨rfl, rfl⟩ := added
      refine (TaskM.wp_bind _ _ _).2 (TaskM.wp_mono ?_ (wp_answer c timeout values as rfl))
      rintro result st' ⟨calls', rfl, rfl, live⟩
      cases answered : c.answered j timeout values as with
      | error f =>
        have e : c.examined j witnessed timeout values = .error f := by
          simp only [Constraint.examined, built, taken, answered, ok_bind, error_bind]
        exact ⟨calls', rfl, by rw [e]; rfl, rfl, rfl⟩
      | ok answer =>
        rw [mapError_ok, andThen_ok]
        by_cases again : (witnessed && answer.verdict == .unsatisfiable) = true
        · rw [if_pos again]
          refine (TaskM.wp_bind _ _ _).2 (TaskM.wp_mono ?_
            (wp_findWitness c timeout (Stance.holding_hold _ _)
              (live answer (by rw [answered]; rfl))))
          rintro result st' ⟨calls'', rfl, rfl⟩
          have e : c.examined j witnessed timeout values =
              (c.foundWitness j timeout as).map fun witness => (answer, witness) := by
            simp only [Constraint.examined, built, taken, answered, again, ok_bind, if_true]
            rfl
          cases found : c.foundWitness j timeout as <;>
            exact ⟨calls'', rfl, by rw [e, found]; rfl, rfl, rfl⟩
        · rw [if_neg again]
          have e : c.examined j witnessed timeout values = .ok (answer, none) := by
            simp only [Constraint.examined, built, taken, answered, again, ok_bind]
            rfl
          exact ⟨calls', rfl, by rw [e]; rfl, rfl, rfl⟩

/-- What a constraint concludes from what the backend says is what a task finds that checks it. -/
theorem wp_checkConstraint (c : Constraint) (witnessed : Bool) (timeout : Timeout)
    (values : FieldValues) (hold : st.hold = .nothing) (known : s ∈ st.known) :
    (c.check s witnessed timeout values).wp j.replies st fun result st' =>
      result = .ok (c.concluded j witnessed timeout values) ∧ st'.hold = .nothing ∧
        st'.known = st.known := by
  unfold Constraint.check Constraint.concluded
  rw [wp_recover, TaskM.wp_bind]
  refine TaskM.wp_mono ?_ (wp_examine c witnessed timeout values hold known)
  rintro result st' ⟨rfl, idle, same⟩
  cases c.examined j witnessed timeout values <;> exact ⟨rfl, idle, same⟩

end Rules

/-! ## Only a constraint's own fields matter -/

namespace Constraint

variable {j : Judge} {values values' : FieldValues}

theorem bindings_congr {entries : List (String × Kind)}
    (same : ∀ name ∈ entries.map Prod.fst, values.raw? name = values'.raw? name) :
    bindings j values entries = bindings j values' entries := by
  induction entries with
  | nil => rfl
  | cons entry rest ih =>
    obtain ⟨name, kind⟩ := entry
    rw [bindings, bindings, same name (by simp), ih fun n hn => same n (by simp_all)]

theorem observe_congr {c : Constraint}
    (same : ∀ name ∈ c.fields, values.raw? name = values'.raw? name) :
    c.observe values = c.observe values' := by
  unfold observe Assoc.mapWithKey
  congr 1
  refine List.map_congr_left fun e he => ?_
  beta_reduce
  rw [same e.1 (List.mem_map_of_mem he)]

theorem concluded_congr {c : Constraint}
    (same : ∀ name ∈ c.fields, values.raw? name = values'.raw? name) (witnessed : Bool)
    (timeout : Timeout) :
    c.concluded j witnessed timeout values = c.concluded j witnessed timeout values' := by
  have answered : c.answered j timeout values = c.answered j timeout values' := by
    unfold Constraint.answered
    rw [bindings_congr same]
  unfold concluded examined
  rw [answered, observe_congr same]

end Constraint

/-! ## Records -/

/-- What is made of a record's raw texts, or a fault if it has none. -/
def Record.onTexts {α : Type} (r : Record) (f : FieldValues → α) : Except Interrupt α :=
  (r.fieldValues.map f).mapError .fault

theorem Record.onTexts_of_ok {α : Type} {r : Record} {values : FieldValues}
    (flat : r.fieldValues = .ok values) (f : FieldValues → α) : r.onTexts f = .ok (f values) := by
  rw [onTexts, flat]
  rfl

theorem Record.map_onTexts {α β : Type} (r : Record) (f : FieldValues → α) (g : α → β) :
    (r.onTexts f).map g = r.onTexts fun values => g (f values) := by
  unfold onTexts
  cases r.fieldValues <;> rfl

/-- The finding of a constraint in the check of a record. -/
def Judge.finding (j : Judge) (settings : SolverSettings) (timeout : Timeout) (values : FieldValues)
    (c : Constraint) : ConstraintFinding :=
  c.concluded j settings.witnessOnViolation (some (timeout.getD settings.timeout)) values

theorem wp_mapM {α β : Type} {j : Judge} {st : Stance} (check : α → TaskM β) (finding : α → β)
    (s : SessionId)
    (h : ∀ a st, st.hold = .nothing → s ∈ st.known → (check a).wp j.replies st fun result st' =>
      result = .ok (finding a) ∧ st'.hold = .nothing ∧ st'.known = st.known)
    (as : List α) (hold : st.hold = .nothing) (known : s ∈ st.known) :
    (as.mapM check).wp j.replies st fun result st' =>
      result = .ok (as.map finding) ∧ st'.hold = .nothing ∧ st'.known = st.known := by
  induction as generalizing st with
  | nil => exact ⟨rfl, hold, rfl⟩
  | cons a rest ih =>
    rw [List.mapM_cons, TaskM.wp_bind]
    refine TaskM.wp_mono ?_ (h a st hold known)
    rintro result st' ⟨rfl, idle, same⟩
    rw [andThen_ok, TaskM.wp_bind]
    refine TaskM.wp_mono ?_ (ih idle (same ▸ known))
    rintro result st'' ⟨rfl, idle', same'⟩
    exact ⟨rfl, idle', same'.trans same⟩

/-- Checking a record gives the findings of its constraints and of its fields' own rules, each as if
it were alone. -/
theorem wp_checkRecord {j : Judge} {st : Stance} (settings : SolverSettings) (record : Record)
    (constraints : List Constraint) (specs : List FieldSpec) (timeout : Timeout)
    (hold : st.hold = .nothing) :
    (checkRecord settings record constraints specs timeout).wp j.replies st fun result st' =>
      result = record.onTexts (fun values =>
        (constraints ++ compileFieldRules specs).map (j.finding settings timeout values)) ∧
          st'.hold = .nothing := by
  unfold checkRecord Record.onTexts
  rw [TaskM.wp_bind, wp_ofExcept]
  cases record.fieldValues with
  | error fault => exact ⟨rfl, hold⟩
  | ok values =>
    rw [mapError_ok, andThen_ok, TaskM.wp_bind]
    refine Session.wp_get hold fun s st' idle known _ => ?_
    refine TaskM.wp_mono (fun result st' h => ⟨h.1, h.2.1⟩)
      (wp_mapM _ _ s (fun c st idle known => ?_) _ idle known)
    exact wp_checkConstraint c settings.witnessOnViolation _ values idle known

end RecordAudit
