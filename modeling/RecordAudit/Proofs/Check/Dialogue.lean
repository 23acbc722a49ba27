import RecordAudit.Proofs.Check.Conclusion
import RecordAudit.Proofs.Session.Alone

/-!
# What a check says to a backend

The calls that the check of one constraint makes, whatever the backend replies to assertions and
checks: a block with a frame in it, which is closed early when something fails. From the blocks of
all constraints comes the trace of a whole check.
-/

namespace RecordAudit

open TaskM Reading

variable {σ α : Type} {b : Backend σ} {m : Surroundings σ} {t : TaskId} {s : SessionId} {state : σ}
  {c : Constraint} {values : FieldValues} {τ : Timeout} {witnessed : Bool} {calls : List Call}

/-! ## Adding -/

/-- Assertions are added one after the other, up to the first that cannot be formed or is
refused. -/
inductive Backend.Adds (b : Backend σ) :
    σ → List (Except Fault Operand) → List Call → Except Fault Unit → Prop
  | done {state : σ} : Adds b state [] [] (.ok ())
  | unformed {state : σ} {fault : Fault} {rest : List (Except Fault Operand)} :
    Adds b state (.error fault :: rest) [] (.error fault)
  | refused {state : σ} {a : Operand} {fault : Fault} {rest : List (Except Fault Operand)} :
    (b.respond (.add a) state).1 = .error fault →
      Adds b state (.ok a :: rest) [.add a] (.error fault)
  | taken {state : σ} {a : Operand} {rest : List (Except Fault Operand)} {calls : List Call}
      {result : Except Fault Unit} :
    (b.respond (.add a) state).1 = .ok () → Adds b (b.after [.add a] state) rest calls result →
    Adds b state (.ok a :: rest) (.add a :: calls) result

namespace Backend.Adds

variable {items : List (Except Fault Operand)} {result : Except Fault Unit}

theorem balanced (adds : b.Adds state items calls result) : Balanced calls := by
  induction adds with
  | done | unformed => exact .nil
  | refused => exact .add _ .nil
  | taken _ _ ih => exact .add _ ih

theorem checksIn_eq (adds : b.Adds state items calls result) : checksIn calls = 0 := by
  induction adds with
  | done | unformed | refused => rfl
  | taken _ _ ih => exact ih

theorem of_ok (adds : b.Adds state items calls (.ok ())) :
    ∃ as : List Operand, items = as.map .ok ∧ calls = as.map .add := by
  generalize ok : Except.ok () = result at adds
  induction adds with
  | done => exact ⟨[], rfl, rfl⟩
  | unformed | refused => cases ok
  | taken _ _ ih =>
    obtain ⟨as, rfl, rfl⟩ := ih ok
    exact ⟨_ :: as, rfl, rfl⟩

end Backend.Adds

theorem forM_tells {f : α → Except Fault Operand} {g : α → TaskM Unit}
    (each : ∀ x, g x = do Session.add s (← TaskM.ofExcept (f x))) (xs : List α) (state : σ) :
    ∃ calls result, m.backend.Adds state (xs.map f) calls result ∧
      (xs.forM g).Tells m t s (.inside t) (.inside t) state calls (result.mapError .fault) := by
  induction xs generalizing state with
  | nil => exact ⟨[], .ok (), .done, .done⟩
  | cons x rest ih =>
    have run : (x :: rest).forM g =
        (do (do Session.add s (← TaskM.ofExcept (f x))); rest.forM g) := by
      rw [← each]
      rfl
    rw [run, List.map_cons]
    cases formed : f x with
    | error fault => exact ⟨[], .error fault, .unformed, .bind_error (.bind_error (.ofExcept _))⟩
    | ok a =>
      have added : (do Session.add s (← TaskM.ofExcept (.ok a)) : TaskM Unit).Tells m t s
          (.inside t) (.inside t) state [.add a]
            ((m.backend.respond (.add a) state).1.mapError .fault) := Session.add_tells
      cases reply : (m.backend.respond (.add a) state).1 with
      | error fault =>
        rw [reply] at added
        exact ⟨[.add a], .error fault, .refused reply, added.bind_error⟩
      | ok u =>
        rw [reply] at added
        obtain ⟨calls, result, adds, told⟩ := ih (m.backend.after [.add a] state)
        exact ⟨.add a :: calls, result, .taken reply adds, added.bind told⟩

theorem Backend.Steady.pop_of_opened (steady : b.Steady state) {n : Nat}
    (opened : Opened (n + 1) calls) :
    (b.respond .pop (b.after calls state)).1 = .ok () :=
  steady.pop calls (opened.depthAfter ▸ Nat.succ_pos n)

namespace Constraint

def bindingsOf (c : Constraint) (values : FieldValues) : List (Except Fault Operand) :=
  c.kinds.entries.map fun (name, kind) =>
    do return .expr .bool (← kind.binding name (kind.read (values.raw? name)))

/-! ## Dialogues -/

def witnessOf (c : Constraint) (answer : Answer) : Option Model :=
  if answer.verdict == .satisfiable then answer.model.map (·.restrict c.fields) else none

/-- The constraint's assertions are added, and the bindings of its variables in a frame within. -/
structure Prepared (b : Backend σ) (values : FieldValues) (state : σ) (c : Constraint)
    (assertions bindings : List Operand) : Prop where
  built : c.assertions = .ok assertions
  added : b.Adds (b.after [.push] state) (assertions.map .ok) (assertions.map .add) (.ok ())
  formed : c.bindingsOf values = bindings.map .ok
  bound : b.Adds (b.after (.push :: assertions.map .add ++ [.push]) state) (bindings.map .ok)
    (bindings.map .add) (.ok ())

def preparation (assertions bindings : List Operand) : List Call :=
  .push :: assertions.map .add ++ .push :: bindings.map .add

/-- The calls with which the check of a constraint goes, and what comes of it. -/
inductive Dialogue (b : Backend σ) (witnessed : Bool) (τ : Timeout) (values : FieldValues)
    (state : σ) (c : Constraint) : List Call → Except Fault (Answer × Option Model) → Prop
  /-- The assertions cannot be built. -/
  | unbuilt {fault : Fault} : c.assertions = .error fault →
    Dialogue b witnessed τ values state c [.push, .pop] (.error fault)
  /-- An assertion is refused. -/
  | refused {assertions : List Operand} {adds : List Call} {fault : Fault} :
    c.assertions = .ok assertions →
      b.Adds (b.after [.push] state) (assertions.map .ok) adds (.error fault) →
    Dialogue b witnessed τ values state c (.push :: adds ++ [.pop]) (.error fault)
  /-- A variable cannot be bound. -/
  | unbound {assertions : List Operand} {bindings : List Call} {fault : Fault} :
    c.assertions = .ok assertions →
      b.Adds (b.after [.push] state) (assertions.map .ok) (assertions.map .add) (.ok ()) →
    b.Adds (b.after (.push :: assertions.map .add ++ [.push]) state) (c.bindingsOf values) bindings
      (.error fault) →
    Dialogue b witnessed τ values state c (.push :: assertions.map .add ++ .push :: bindings ++
      [.pop, .pop]) (.error fault)
  /-- The check fails. -/
  | unanswered {assertions bindings : List Operand} {fault : Fault} :
    c.Prepared b values state assertions bindings →
    (b.respond (.check τ) (b.after (preparation assertions bindings) state)).1 = .error fault →
    Dialogue b witnessed τ values state c
      (preparation assertions bindings ++ [.check τ, .pop, .pop]) (.error fault)
  /-- The check is answered, and no witness is needed. -/
  | answered {assertions bindings : List Operand} {answer : Answer} :
    c.Prepared b values state assertions bindings →
    (b.respond (.check τ) (b.after (preparation assertions bindings) state)).1 = .ok answer →
    ¬(witnessed = true ∧ answer.verdict = .unsatisfiable) →
    Dialogue b witnessed τ values state c
      (preparation assertions bindings ++ [.check τ, .pop, .pop]) (.ok (answer, none))
  /-- The check for a witness fails. -/
  | unwitnessed {assertions bindings : List Operand} {answer : Answer} {fault : Fault} :
    c.Prepared b values state assertions bindings →
    (b.respond (.check τ) (b.after (preparation assertions bindings) state)).1 = .ok answer →
    witnessed = true → answer.verdict = .unsatisfiable →
    (b.respond (.check τ) (b.after (preparation assertions bindings ++ [.check τ, .pop]) state)).1 =
      .error fault →
    Dialogue b witnessed τ values state c
      (preparation assertions bindings ++ [.check τ, .pop, .check τ, .pop]) (.error fault)
  /-- The check for a witness is answered. -/
  | witnessed {assertions bindings : List Operand} {answer second : Answer} :
    c.Prepared b values state assertions bindings →
    (b.respond (.check τ) (b.after (preparation assertions bindings) state)).1 = .ok answer →
    witnessed = true → answer.verdict = .unsatisfiable →
    (b.respond (.check τ) (b.after (preparation assertions bindings ++ [.check τ, .pop]) state)).1 =
      .ok second →
    Dialogue b witnessed τ values state c
      (preparation assertions bindings ++ [.check τ, .pop, .check τ, .pop])
      (.ok (answer, c.witnessOf second))

/-! ## Parts of a dialogue -/

/-- In the frame, the variables are bound, and when that goes well the check is made. -/
inductive Asked (b : Backend σ) (τ : Timeout) (values : FieldValues) (state : σ) (c : Constraint) :
    List Call → Except Fault Answer → Prop
  | unbound {calls : List Call} {fault : Fault} :
    b.Adds state (c.bindingsOf values) calls (.error fault) →
      Asked b τ values state c calls (.error fault)
  | bound {bindings : List Operand} : c.bindingsOf values = bindings.map .ok →
    b.Adds state (bindings.map .ok) (bindings.map .add) (.ok ()) →
    Asked b τ values state c (bindings.map .add ++ [.check τ])
      (b.respond (.check τ) (b.after (bindings.map .add) state)).1

/-- After an answer, a second check is made if a witness is asked for and the answer is a
contradiction. -/
inductive Concluded (b : Backend σ) (witnessed : Bool) (τ : Timeout) (answer : Answer) (state : σ)
    (c : Constraint) :
    List Call → Except Fault (Answer × Option Model) → Prop
  | enough : ¬(witnessed = true ∧ answer.verdict = .unsatisfiable) →
    Concluded b witnessed τ answer state c [] (.ok (answer, none))
  | again : witnessed = true → answer.verdict = .unsatisfiable →
    Concluded b witnessed τ answer state c [.check τ]
      ((b.respond (.check τ) state).1.map fun second => (answer, c.witnessOf second))

theorem Asked.balanced {reply : Except Fault Answer}
    (asked : c.Asked b τ values state calls reply) :
    Balanced calls := by
  cases asked with
  | unbound adds => exact adds.balanced
  | bound _ adds => exact adds.balanced.append (.check τ .nil)

theorem Concluded.balanced {answer : Answer} {result : Except Fault (Answer × Option Model)}
    (concluded : c.Concluded b witnessed τ answer state calls result) : Balanced calls := by
  cases concluded with
  | enough => exact .nil
  | again => exact .check τ .nil

/-- With the first answer and what follows it, the dialogue is complete. -/
theorem Prepared.dialogue {assertions bindings : List Operand} {answer : Answer} {rest : List Call}
    {result : Except Fault (Answer × Option Model)}
    (prepared : c.Prepared b values state assertions bindings)
    (replied : (b.respond (.check τ) (b.after (preparation assertions bindings) state)).1 =
      .ok answer)
    (concluded : c.Concluded b witnessed τ answer
      (b.after (preparation assertions bindings ++ [.check τ, .pop]) state) rest result) :
    c.Dialogue b witnessed τ values state (preparation assertions bindings ++ [.check τ, .pop] ++
      rest ++ [.pop]) result := by
  cases concluded with
  | enough unneeded => simpa using Dialogue.answered prepared replied unneeded
  | again asks unsat =>
    cases second : (b.respond (.check τ)
        (b.after (preparation assertions bindings ++ [.check τ, .pop]) state)).1 with
    | error fault =>
      simpa [Except.map] using Dialogue.unwitnessed prepared replied asks unsat second
    | ok answer' => simpa [Except.map] using Dialogue.witnessed prepared replied asks unsat second

/-! ## What a task says -/

theorem ask_tells (c : Constraint) (values : FieldValues) (τ : Timeout) (state : σ) :
    ∃ calls reply, c.Asked m.backend τ values state calls reply ∧
      (do c.bind s values; Session.check s τ).Tells m t s (.inside t) (.inside t) state calls
        (Except.mapError .fault reply) := by
  obtain ⟨calls, result, adds, told⟩ := forM_tells (m := m) (t := t) (s := s)
    (f := fun (x : String × Kind) =>
      do return .expr .bool (← x.2.binding x.1 (x.2.read (values.raw? x.1))))
    (g := fun x => do Session.add s (.expr .bool
      (← TaskM.ofExcept (x.2.binding x.1 (x.2.read (values.raw? x.1))))))
    (fun x => by cases x.2.binding x.1 (x.2.read (values.raw? x.1)) <;> rfl) c.kinds.entries state
  cases result with
  | error fault => exact ⟨calls, _, .unbound adds, told.bind_error⟩
  | ok u =>
    obtain ⟨bindings, formed, rfl⟩ := adds.of_ok
    exact ⟨_, _, .bound formed (formed ▸ adds), told.bind Session.check_tells⟩

theorem findWitness_tells : (c.findWitness s τ).Tells m t s (.inside t) (.inside t) state [.check τ]
    (((m.backend.respond (.check τ) state).1.map c.witnessOf).mapError .fault) := by
  have told : (Session.check s τ).Tells m t s (.inside t) (.inside t) state [.check τ]
      ((m.backend.respond (.check τ) state).1.mapError .fault) := Session.check_tells
  unfold findWitness
  cases reply : (m.backend.respond (.check τ) state).1 with
  | error fault =>
    rw [reply] at told
    exact told.bind_error
  | ok answer =>
    rw [reply] at told
    exact told.map c.witnessOf

theorem conclude_tells (c : Constraint) (witnessed : Bool) (τ : Timeout)
    (answer : Answer) (state : σ) :
    ∃ calls result, c.Concluded m.backend witnessed τ answer state calls result ∧
      (do
        let witness ←
          if witnessed && answer.verdict == .unsatisfiable then c.findWitness s τ else pure none
        return (answer, witness) :
        TaskM (Answer × Option Model)).Tells m t s (.inside t) (.inside t) state calls
        (Except.mapError .fault result) := by
  by_cases needed : witnessed = true ∧ answer.verdict = .unsatisfiable
  · have told : (c.findWitness s τ).Tells m t s (.inside t) (.inside t) state [.check τ] _ :=
      findWitness_tells
    have condition : (witnessed && answer.verdict == .unsatisfiable) = true := by
      rw [needed.1, needed.2]
      rfl
    rw [condition]
    refine ⟨_, _, .again needed.1 needed.2, ?_⟩
    cases reply : (m.backend.respond (.check τ) state).1 with
    | error fault =>
      rw [reply] at told
      exact told.bind_error
    | ok second =>
      rw [reply] at told
      exact told.map fun witness => (answer, witness)
  · have condition : (witnessed && answer.verdict == .unsatisfiable) = false := by
      rw [Bool.eq_false_iff, Ne, Bool.and_eq_true, beq_iff_eq]
      exact needed
    rw [condition]
    exact ⟨[], _, .enough needed, .done⟩

/-- What a scope says after the constraint's assertions have been added in it. -/
theorem rest_tells (steady : m.backend.Steady state) {assertions : List Operand}
    (built : c.assertions = .ok assertions)
    (added : m.backend.Adds (m.backend.after [.push] state) (assertions.map .ok)
    (assertions.map .add) (.ok ())) (witnessed : Bool) (values : FieldValues) (τ : Timeout) :
    ∃ calls result, Balanced calls ∧
      c.Dialogue m.backend witnessed τ values state
        (.push :: assertions.map .add ++ calls ++ [.pop]) result ∧
      (do
        let answer ← Session.frame s do
          c.bind s values
          Session.check s τ
        let witness ←
          if witnessed && answer.verdict == .unsatisfiable then c.findWitness s τ else pure none
        return (answer, witness) :
        TaskM (Answer × Option Model)).Tells m t s (.inside t) (.inside t)
        (m.backend.after (.push :: assertions.map .add) state) calls
          (Except.mapError .fault result) := by
  have outer : Opened 1 (.push :: assertions.map .add) := Opened.none.push.append added.balanced
  obtain ⟨calls, reply, asked, toldAsk⟩ := ask_tells (m := m) (t := t) (s := s) c values τ
    (m.backend.after (.push :: assertions.map .add ++ [.push]) state)
  have toldFrame : (Session.frame s (do c.bind s values; Session.check s τ)).Tells m t s (.inside t)
      (.inside t) (m.backend.after (.push :: assertions.map .add) state)
        (.push :: (calls ++ [.pop]))
      (reply.mapError .fault) := by
    have popped := steady.pop_of_opened (outer.push.append asked.balanced)
    rw [List.append_assoc, Backend.after_append] at popped
    rw [Backend.after_append] at toldAsk
    exact Session.frame_tells (steady.push _) toldAsk popped
  have framed : Balanced (.push :: (calls ++ [.pop])) := .frame asked.balanced .nil
  cases asked with
  | unbound adds =>
    refine ⟨_, .error _, framed, ?_, toldFrame.bind_error⟩
    have dialogue : c.Dialogue m.backend witnessed τ values state _ _ := .unbound built added adds
    simpa using dialogue
  | @bound bindings formed bound =>
    have prepared : c.Prepared m.backend values state assertions bindings :=
      ⟨built, added, formed, bound⟩
    have ready : m.backend.after (bindings.map .add)
        (m.backend.after (.push :: assertions.map .add ++ [.push]) state) =
        m.backend.after (preparation assertions bindings) state := by
      rw [← Backend.after_append, preparation]
      simp
    rw [ready] at toldFrame
    cases replied : (m.backend.respond (.check τ)
        (m.backend.after (preparation assertions bindings) state)).1 with
    | error fault =>
      rw [replied] at toldFrame
      refine ⟨_, .error _, framed, ?_, toldFrame.bind_error⟩
      have dialogue : c.Dialogue m.backend witnessed τ values state _ _ :=
        .unanswered prepared replied
      simpa [preparation] using dialogue
    | ok answer =>
      rw [replied] at toldFrame
      have unbound : m.backend.after (.push :: (bindings.map .add ++ [.check τ] ++ [.pop]))
          (m.backend.after (.push :: assertions.map .add) state) =
          m.backend.after (preparation assertions bindings ++ [.check τ, .pop]) state := by
        rw [← Backend.after_append, preparation]
        simp
      obtain ⟨rest, result, concluded, toldRest⟩ :=
        conclude_tells (m := m) (t := t) (s := s) c witnessed τ answer
          (m.backend.after (preparation assertions bindings ++ [.check τ, .pop]) state)
      rw [← unbound] at toldRest
      refine ⟨_, result, framed.append concluded.balanced, ?_, toldFrame.bind toldRest⟩
      simpa [preparation] using prepared.dialogue replied concluded

theorem examine_tells (steady : m.backend.Steady state) (c : Constraint) (witnessed : Bool)
    (values : FieldValues) (τ : Timeout) :
    ∃ calls result, c.Dialogue m.backend witnessed τ values state calls result ∧
      (c.examine s witnessed τ values).Tells m t s .free .free state calls
        (result.mapError .fault) := by
  have pushed : (m.backend.respond .push state).1 = .ok () := steady.push []
  have first : Opened 1 [.push] := Opened.none.push
  unfold examine
  cases built : c.assertions with
  | error fault =>
    have failed : (TaskM.ofExcept (.error fault) : TaskM (List Operand)).Tells m t s (.inside t)
        (.inside t) (m.backend.after [.push] state) [] _ := .ofExcept _
    exact ⟨_, _, .unbuilt built, Session.scope_tells pushed failed.bind_error
      (steady.pop_of_opened first)⟩
  | ok assertions =>
    obtain ⟨adds, result, added, toldAdds⟩ :=
      forM_tells (m := m) (t := t) (s := s) (f := .ok) (g := Session.add s) (fun _ => rfl)
        assertions (m.backend.after [.push] state)
    cases result with
    | error fault =>
      exact ⟨_, _, .refused built added,
        Session.scope_tells pushed toldAdds.bind_error
          (steady.pop_of_opened (first.append added.balanced))⟩
    | ok u =>
      obtain ⟨as, same, rfl⟩ := added.of_ok
      obtain rfl : assertions = as := List.map_injective_iff.2 (fun _ _ => Except.ok.inj) same
      obtain ⟨calls, result, balanced, dialogue, told⟩ :=
        rest_tells (t := t) (s := s) steady built added witnessed values τ
      have whole := (first.append added.balanced).append balanced
      rw [List.append_assoc] at whole
      exact ⟨_, result, dialogue, Session.scope_tells pushed (toldAdds.bind told)
        (steady.pop_of_opened whole)⟩

/-- What an examination comes to. -/
def findingOf (c : Constraint) (values : FieldValues) :
    Except Fault (Answer × Option Model) → ConstraintFinding
  | .ok (answer, witness) => c.finding (c.observe values) answer witness
  | .error fault => c.failedFinding fault

/-- The check of a constraint goes as a dialogue, and a fault on the way becomes a finding. -/
theorem check_tells (steady : m.backend.Steady state) (c : Constraint) (witnessed : Bool)
    (values : FieldValues) (τ : Timeout) :
    ∃ calls result, c.Dialogue m.backend witnessed τ values state calls result ∧
      (c.check s witnessed τ values).Tells m t s .free .free state calls
        (.ok (c.findingOf values result)) := by
  obtain ⟨calls, result, dialogue, told⟩ :=
    examine_tells (t := t) (s := s) steady c witnessed values τ
  refine ⟨calls, result, dialogue, ?_⟩
  cases result with
  | error fault => exact .recover_fault c.failedFinding told.bind_error
  | ok found =>
    obtain ⟨answer, witness⟩ := found
    exact .recover_ok c.failedFinding
      (told.map fun found => c.finding (c.observe values) found.1 found.2)

end Constraint

/-! ## Blocks -/

theorem Balanced.map_add (as : List Operand) : Balanced (as.map .add) := by
  induction as with
  | nil => exact .nil
  | cons a rest ih => exact .add a ih

@[simp] theorem checksIn_map_add (as : List Operand) : checksIn (as.map .add) = 0 := by
  simp [checksIn]

theorem eq_of_checksIn_eq {before before' after after' : List Call} {τ τ' : Timeout}
    (same : before ++ .check τ :: after = before' ++ .check τ' :: after')
    (count : checksIn before = checksIn before') : before = before' ∧ τ = τ' := by
  rcases List.append_eq_append_iff.1 same with ⟨more, rfl, rest⟩ | ⟨more, rfl, rest⟩
  · cases more with
    | nil =>
      obtain ⟨check, -⟩ := List.cons.inj rest
      exact ⟨(List.append_nil _).symm, Call.check.inj check⟩
    | cons call more =>
      obtain ⟨rfl, -⟩ := List.cons.inj rest
      simp [checksIn] at count
  · cases more with
    | nil =>
      obtain ⟨check, -⟩ := List.cons.inj rest
      exact ⟨List.append_nil _, (Call.check.inj check).symm⟩
    | cons call more =>
      obtain ⟨rfl, -⟩ := List.cons.inj rest
      simp [checksIn] at count

namespace Constraint.Dialogue

variable {result : Except Fault (Answer × Option Model)}

theorem opened_preparation (assertions bindings : List Operand) :
    Opened 2 (preparation assertions bindings) := by
  have opened := (Opened.none.push.append (Balanced.map_add assertions)).push.append
    (Balanced.map_add bindings)
  simpa [preparation] using opened

@[simp] theorem checksIn_preparation (assertions bindings : List Operand) :
    checksIn (preparation assertions bindings) = 0 := by
  have pushed : ∀ calls, checksIn (.push :: calls) = checksIn calls := fun _ => rfl
  simp [preparation, pushed]

theorem isBlock (dialogue : c.Dialogue b witnessed τ values state calls result) :
    IsBlock calls := by
  have first : Opened 1 [.push] := Opened.none.push
  cases dialogue with
  | unbuilt built => exact first.isBlock
  | refused built adds => exact (first.append adds.balanced).isBlock
  | @unbound assertions bindings fault built added adds =>
    have opened := ((first.append (Balanced.map_add assertions)).push.append adds.balanced).pop
    simpa using opened.isBlock
  | @unanswered assertions bindings | @answered assertions bindings =>
    have opened := ((opened_preparation assertions bindings).append (.check τ .nil)).pop
    simpa using opened.isBlock
  | @unwitnessed assertions bindings | @witnessed assertions bindings =>
    have opened := ((opened_preparation assertions bindings).append (.check τ .nil)).pop.append
      (.check τ .nil)
    simpa using opened.isBlock

/-- A dialogue has no check, or one, or a second one that looks for a witness after a
contradiction. -/
theorem forms (dialogue : c.Dialogue b witnessed τ values state calls result) :
    checksIn calls = 0 ∨ ∃ assertions bindings, c.Prepared b values state assertions bindings ∧
      ((calls = preparation assertions bindings ++ [.check τ, .pop, .pop] ∧
          ¬(witnessed = true ∧ ∃ answer,
            (b.respond (.check τ) (b.after (preparation assertions bindings) state)).1 =
              .ok answer ∧ answer.verdict = .unsatisfiable)) ∨
        (calls = preparation assertions bindings ++ [.check τ, .pop, .check τ, .pop] ∧
          witnessed = true ∧ ∃ answer,
            (b.respond (.check τ) (b.after (preparation assertions bindings) state)).1 =
              .ok answer ∧ answer.verdict = .unsatisfiable)) := by
  have bracketed : ∀ calls, checksIn (.push :: calls) = checksIn calls := fun _ => rfl
  cases dialogue with
  | unbuilt => exact .inl rfl
  | refused built adds =>
    exact .inl (by rw [List.cons_append, bracketed, checksIn_append, adds.checksIn_eq]; rfl)
  | unbound built added adds =>
    refine .inl ?_
    rw [List.cons_append, List.cons_append, bracketed, checksIn_append, checksIn_append, bracketed,
      checksIn_map_add, adds.checksIn_eq]
    rfl
  | unanswered prepared refused =>
    refine .inr ⟨_, _, prepared, .inl ⟨rfl, ?_⟩⟩
    rintro ⟨-, answer, replied, -⟩
    rw [refused] at replied
    cases replied
  | answered prepared replied enough =>
    refine .inr ⟨_, _, prepared, .inl ⟨rfl, ?_⟩⟩
    rintro ⟨asks, answer, replied', unsat⟩
    obtain rfl := Except.ok.inj (replied.symm.trans replied')
    exact enough ⟨asks, unsat⟩
  | unwitnessed prepared replied asks unsat | witnessed prepared replied asks unsat =>
    exact .inr ⟨_, _, prepared, .inr ⟨rfl, asks, _, replied, unsat⟩⟩

theorem timeout_eq (dialogue : c.Dialogue b witnessed τ values state calls result) {τ' : Timeout}
    (mem : .check τ' ∈ calls) : τ' = τ := by
  have noCheck : ∀ {calls : List Call}, checksIn calls = 0 → .check τ' ∉ calls := fun none mem => by
    simpa using List.countP_eq_zero.1 none _ mem
  rcases dialogue.forms with none | ⟨assertions, bindings, -, ⟨rfl, -⟩ | ⟨rfl, -⟩⟩
  · exact absurd mem (noCheck none)
  · simpa [noCheck (checksIn_preparation assertions bindings)] using mem
  · simpa [noCheck (checksIn_preparation assertions bindings)] using mem

/-- There is a second check when the first came to a contradiction and a witness is asked for, and
not otherwise. -/
theorem second_check_iff (dialogue : c.Dialogue b witnessed τ values state calls result) :
    checksIn calls ≤ 2 ∧ (checksIn calls = 2 ↔ witnessed = true ∧ ∃ before after answer,
      calls = before ++ .check τ :: after ∧ checksIn before = 0 ∧
        (b.respond (.check τ) (b.after before state)).1 = .ok answer ∧
        answer.verdict = .unsatisfiable) := by
  have one : checksIn [.check τ, .pop, .pop] = 1 := rfl
  have two : checksIn [.check τ, .pop, .check τ, .pop] = 2 := rfl
  rcases dialogue.forms with none |
    ⟨assertions, bindings, -, ⟨rfl, enough⟩ | ⟨rfl, asks, answer, replied, unsat⟩⟩
  · refine ⟨by omega, ⟨by omega, ?_⟩⟩
    rintro ⟨-, before, after, answer, rfl, -⟩
    simp [checksIn] at none
  · refine ⟨by rw [checksIn_append, checksIn_preparation, one]; omega,
      ⟨by rw [checksIn_append, checksIn_preparation, one]; omega, ?_⟩⟩
    rintro ⟨asks, before, after, answer, same, none, replied, unsat⟩
    obtain ⟨rfl, -⟩ := eq_of_checksIn_eq same ((checksIn_preparation _ _).trans none.symm)
    exact absurd ⟨asks, answer, replied, unsat⟩ enough
  · have twice : checksIn (preparation assertions bindings ++ [.check τ, .pop, .check τ, .pop]) =
        2 := by
      rw [checksIn_append, checksIn_preparation, two]
    exact ⟨Nat.le_of_eq twice,
      ⟨fun _ => ⟨asks, _, _, answer, rfl, checksIn_preparation _ _, replied, unsat⟩,
        fun _ => twice⟩⟩

/-- When a second check is made, the constraint's own assertions are live and nothing else. -/
theorem live_at_second_check (dialogue : c.Dialogue b witnessed τ values state calls result)
    {before after : List Call} (cut : calls = before ++ .check τ :: after)
    (second : checksIn before = 1) :
    c.assertions = .ok (liveAfter before) := by
  have one : checksIn [.check τ, .pop] = 1 := rfl
  rcases dialogue.forms with none | ⟨assertions, bindings, prepared, ⟨rfl, -⟩ | ⟨rfl, -⟩⟩
  · rw [cut] at none
    simp [checksIn] at none
  · have count := congrArg checksIn cut
    have after : checksIn (.check τ :: after) = checksIn after + 1 := by simp [checksIn]
    have only : checksIn [.check τ, .pop, .pop] = 1 := rfl
    rw [checksIn_append, checksIn_append, checksIn_preparation, only, after, second] at count
    omega
  · have same : preparation assertions bindings ++ [.check τ, .pop] ++ .check τ :: [.pop] =
        before ++ .check τ :: after := by rw [← cut]; simp
    obtain ⟨rfl, -⟩ := eq_of_checksIn_eq same
      (by rw [checksIn_append, checksIn_preparation, one, second])
    have live := liveAfter_unbound assertions bindings τ
    rw [prepared.built]
    simpa [preparation] using live.symm

end Constraint.Dialogue

end RecordAudit
