import RecordAudit.Proofs.Session.Progress

/-!
# Completion

From wherever tasks that keep the rules have got, rounds finish all of them, and rounds are
themselves a sequence of events.
-/

namespace RecordAudit

variable {σ α : Type} {m : Surroundings σ} {allows : Replies} {clean : σ → Prop}
  {past : SessionId → List (TaskId × Call)} {known : List SessionId}
  {Q : TaskId → Except Interrupt α → Stance → Prop} {run : Run σ α}
  {stance : TaskId → Stance} {t : TaskId}

/-! ## Some task can go on -/

namespace Run.Coherent

variable {m : Machine σ}

theorem waiting_of_hold (h : run.Coherent m allows clean past known Q stance)
    (ends : ∀ t result st, Q t result st → st.hold = .nothing)
    (holds : (stance t).hold ≠ .nothing) :
    ∃ r next, run.tasks[t]? = some (.waiting r next false) ∧
      (stance t).WaitsWith allows r fun response st => (next response).wp allows st (Q t) := by
  cases there : run.tasks[t]? with
  | none =>
    rw [h.others t (List.getElem?_eq_none_iff.1 there)] at holds
    exact absurd rfl holds
  | some state =>
    have fits := h.tasks t state there
    cases state with
    | unstarted p => exact absurd fits.1 holds
    | waiting r next cancelled =>
      cases cancelled with
      | false => exact ⟨r, next, rfl, fits⟩
      | true => exact fits.elim
    | finished result => exact absurd (ends t result _ fits) holds

/-- A lock's holder waits for no other lock, so in a settled run it can go on. -/
theorem ready_of_holder (h : run.Coherent m allows clean past known Q stance)
    (ends : ∀ t result st, Q t result st → st.hold = .nothing) (settled : run.world.Settled)
    {l : LockName} (there : ∀ s, l = .session s → s < run.world.sessions.length)
    (holder : (run.world.lock l).holder = some t) :
    run.Ready t := by
  have at_lock := (h.world.serves there).holder t holder
  have holds : (stance t).hold ≠ .nothing := fun e => by
    rw [e, Hold.at_nothing] at at_lock
    simp [Place.holds, Place.awaits] at at_lock
  obtain ⟨r, next, waiting, waits⟩ := h.waiting_of_hold ends holds
  refine .inr ⟨r, next, waiting, ?_⟩
  rcases h.world.unblocked settled waits with come | ⟨l', u, queued, other, holder'⟩
  · exact come
  · -- a task that is queued stands towards its own lock only, and that one is held by another task
    have away : l ≠ l' := fun e => other (Option.some.inj (holder'.symm.trans (e ▸ holder)))
    rw [queued, Hold.at_queued_other away] at at_lock
    simp [Place.holds, Place.awaits] at at_lock

/-- In a settled run that has not finished some task can go on. -/
theorem exists_ready (h : run.Coherent m allows clean past known Q stance)
    (ends : ∀ t result st, Q t result st → st.hold = .nothing) (settled : run.world.Settled)
    (unfinished : run.isFinished = false) : ∃ t < run.tasks.length, run.Ready t := by
  obtain ⟨state, mem, unfinished⟩ := List.all_eq_false.1 unfinished
  obtain ⟨t, there⟩ := List.mem_iff_getElem?.1 mem
  have lt : t < run.tasks.length := (List.getElem?_eq_some_iff.1 there).1
  have fits := h.tasks t state there
  cases state with
  | unstarted p => exact ⟨t, lt, .inl ⟨p, there⟩⟩
  | finished result => exact absurd rfl unfinished
  | waiting r next cancelled =>
    cases cancelled with
    | true => exact fits.elim
    | false =>
      rcases h.world.unblocked settled fits with come | ⟨l, u, queued, -, holder⟩
      · exact ⟨t, lt, .inr ⟨r, next, there, come⟩⟩
      · have ready := h.ready_of_holder ends settled (h.world.there_of_queued queued) holder
        have born : u < run.tasks.length := by
          rcases ready with ⟨p, e⟩ | ⟨r, next, e, -⟩ <;> exact (List.getElem?_eq_some_iff.1 e).1
        exact ⟨u, born, ready⟩

end Run.Coherent

/-! ## Rounds are events -/

/-- No task takes its first step before those with smaller numbers. -/
def StartsInOrder (events : List (Event σ)) : Prop :=
  ∀ pre j post, events = pre ++ .step j :: post → ∀ i < j, .step i ∈ pre

namespace StartsInOrder

theorem of_no_step {events : List (Event σ)} (h : ∀ t, .step t ∉ events) :
    StartsInOrder events := by
  rintro pre j post rfl
  exact absurd (by simp) (h j)

theorem append {events more : List (Event σ)} (h : StartsInOrder events) (h' : StartsInOrder more) :
    StartsInOrder (events ++ more) := by
  intro pre j post e i lt
  rcases List.append_eq_append_iff.1 e with ⟨mid, rfl, inside⟩ | ⟨mid, rfl, inside⟩
  · exact List.mem_append_right events (h' mid j post inside i lt)
  · cases mid with
    | nil => exact absurd (h' [] j post inside.symm i lt) List.not_mem_nil
    | cons first mid =>
      obtain ⟨rfl, -⟩ := List.cons.inj inside
      exact h pre j mid rfl i lt

theorem steps (n : Nat) : StartsInOrder ((List.range n).map .step : List (Event σ)) := by
  intro pre j post e i lt
  induction n generalizing post with
  | zero => simp at e
  | succ n ih =>
    rw [List.range_succ, List.map_append, List.map_singleton] at e
    rcases List.eq_nil_or_concat post with rfl | ⟨rest, last, rfl⟩
    · obtain ⟨rfl, last⟩ := List.append_inj' e rfl
      cases last
      exact List.mem_map_of_mem (List.mem_range.2 lt)
    · refine ih rest ?_
      rw [List.concat_eq_append, ← List.cons_append, ← List.append_assoc] at e
      exact (List.append_inj' e rfl).1

end StartsInOrder

namespace Run

theorem applyAll_append (m : Machine σ) (run : Run σ α) (events more : List (Event σ)) :
    run.applyAll m (events ++ more) = (run.applyAll m events).applyAll m more := List.foldl_append

theorem applyAll_steps (m : Machine σ) (run : Run σ α) (ts : List TaskId) :
    run.applyAll m (ts.map .step) = ts.foldl (fun run t => run.step m t) run := List.foldl_map

theorem applyAll_deliver (m : Surroundings σ) (run : Run σ α) (cs : List CreationId) :
    run.applyAll m.toMachine (cs.map fun c => .deliver c (m.deliver c)) =
      { run with world := cs.foldl (fun w c => w.deliver c (m.deliver c)) run.world } := by
  induction cs generalizing run with
  | nil => rfl
  | cons c rest ih => exact ih _

theorem applyAll_endCheck (m : Machine σ) (run : Run σ α) (cs : List CheckId) :
    run.applyAll m (cs.map .endCheck) =
      { run with world := cs.foldl World.endCheck run.world } := by
  induction cs generalizing run with
  | nil => rfl
  | cons c rest ih => exact ih _

/-- The run goes from one state to another through events in which nobody is cancelled and tasks
start in order. -/
def Leads (m : Machine σ) (clean : σ → Prop) (run run' : Run σ α) : Prop :=
  ∃ events : List (Event σ), (∀ e ∈ events, e.Orderly clean) ∧ StartsInOrder events ∧
    run' = run.applyAll m events

theorem Leads.refl (m : Machine σ) (clean : σ → Prop) (run : Run σ α) : run.Leads m clean run :=
  ⟨[], by simp, .of_no_step (by simp), rfl⟩

theorem Leads.trans {m : Machine σ} {run' run'' : Run σ α} (h : run.Leads m clean run')
    (h' : run'.Leads m clean run'') : run.Leads m clean run'' := by
  obtain ⟨events, orderly, starts, rfl⟩ := h
  obtain ⟨more, orderly', starts', rfl⟩ := h'
  refine ⟨events ++ more, fun e he => ?_, starts.append starts',
    (applyAll_append m run events more).symm⟩
  exact (List.mem_append.1 he).elim (orderly e) (orderly' e)

theorem leads_settle (keeps : m.Keeps allows clean) (run : Run σ α) :
    run.Leads m.toMachine clean { run with world := run.world.settle m } := by
  have delivered : run.Leads m.toMachine clean
      { run with world := run.world.openCreations.foldl (fun w c => w.deliver c
          (m.deliver c)) run.world } := by
    refine ⟨_, fun e he => ?_, .of_no_step (by simp), (applyAll_deliver m run _).symm⟩
    obtain ⟨c, -, rfl⟩ := List.mem_map.1 he
    exact keeps.deliver c
  have ended : ∀ (run : Run σ α) (cs : List CheckId), run.Leads m.toMachine clean
      { run with world := cs.foldl World.endCheck run.world } := by
    refine fun run cs => ⟨_, fun e he => ?_, .of_no_step (by simp),
      (applyAll_endCheck m.toMachine run cs).symm⟩
    obtain ⟨c, -, rfl⟩ := List.mem_map.1 he
    trivial
  exact delivered.trans (ended _ _)

theorem leads_round (keeps : m.Keeps allows clean) (run : Run σ α) :
    run.Leads m.toMachine clean (run.round m) := by
  have steps : run.Leads m.toMachine clean
      ((List.range run.tasks.length).foldl (fun run t => run.step m.toMachine t) run) := by
    refine ⟨_, fun e he => ?_, .steps run.tasks.length, (applyAll_steps m.toMachine run _).symm⟩
    obtain ⟨t, -, rfl⟩ := List.mem_map.1 he
    trivial
  exact steps.trans (leads_settle keeps _)

theorem leads_rounds (keeps : m.Keeps allows clean) (bound : Nat) (run : Run σ α) :
    run.Leads m.toMachine clean (run.rounds m bound) := by
  induction bound generalizing run with
  | zero => exact .refl _ _ _
  | succ bound ih =>
    rw [rounds]
    split
    · exact .refl _ _ _
    · exact (leads_round keeps run).trans (ih _)

theorem leads_complete (keeps : m.Keeps allows clean) (waits : Nat) (run : Run σ α) :
    run.Leads m.toMachine clean (run.complete m waits) := leads_rounds keeps _ run

end Run

theorem Run.Coherent.leads {m : Machine σ} (h : run.Coherent m allows clean past known Q stance)
    (keeps : m.Keeps allows clean) {run' : Run σ α} (leads : run.Leads m clean run') :
    ∃ stance', run'.Coherent m allows clean past known Q stance' := by
  obtain ⟨events, orderly, -, rfl⟩ := leads
  exact h.applyAll keeps orderly

/-! ## Rounds finish all tasks -/

/-- The task waits no more often than this after its first step. -/
def TaskState.Left (waits : Nat) (state : TaskState α) : Prop :=
  state.Within (waits + 1) ∧ (state.isUnstarted = false → state.Within waits)

theorem Run.step_left {m : Machine σ} {waits : Nat} (h : ∀ state ∈ run.tasks, state.Left waits)
    (t : TaskId) :
    ∀ state ∈ (run.step m t).tasks, state.Left waits := by
  have set : ∀ next : TaskState α × World σ, next.1.Within waits ∧ next.1.isUnstarted = false →
      ∀ state ∈ (run.setTask t next).tasks, state.Left waits := by
    intro next ⟨within, started⟩ state mem
    rcases List.mem_or_eq_of_mem_set mem with mem | rfl
    · exact h state mem
    · exact ⟨within.mono (Nat.le_succ waits), fun _ => within⟩
  unfold Run.step
  split
  · next p there =>
    obtain ⟨k, e, within⟩ := (h _ (List.mem_of_getElem? there)).1
    obtain rfl := Nat.succ.inj e
    exact set _ (Program.advance_within within run.world)
  · next there => exact (h _ (List.mem_of_getElem? there)).1.elim
  · next r next there =>
    split
    · next response came =>
      have within := (h _ (List.mem_of_getElem? there)).2 rfl
      obtain ⟨k, lt, within⟩ := Request.Within.granted within came
      obtain ⟨within, started⟩ := Program.advance_within (m := m) (t := t) within run.world
      exact set _ ⟨within.mono (Nat.le_of_lt lt), started⟩
    · exact h
  · exact h

theorem Run.applyAll_left {m : Machine σ} {waits : Nat} (h : ∀ state ∈ run.tasks, state.Left waits)
    {events : List (Event σ)} (orderly : ∀ e ∈ events, e.Orderly clean) :
    ∀ state ∈ (run.applyAll m events).tasks, state.Left waits := by
  induction events generalizing run with
  | nil => exact h
  | cons e rest ih =>
    refine ih ?_ fun e' he' => orderly e' (by simp [he'])
    cases e with
    | step t => exact step_left h t
    | endCheck c | deliver c outcome => exact h
    | cancel t => exact (orderly (.cancel t) (by simp)).elim

namespace Run.Coherent

/-- Every round of a settled run gets some task past a waiting place. -/
theorem rounds_finished (keeps : m.Keeps allows clean)
    (ends : ∀ t result st, Q t result st → st.hold = .nothing)
    (h : run.Coherent m.toMachine allows clean past known Q stance) (settled : run.world.Settled)
    {n bound : Nat} (within : WithinAll run.tasks n) (le : n ≤ bound) :
    (run.rounds m bound).isFinished = true := by
  induction bound generalizing run stance n with
  | zero =>
    rw [rounds]
    by_contra unfinished
    obtain ⟨t, -, ready⟩ := h.exists_ready ends settled (Bool.eq_false_iff.2 unfinished)
    obtain ⟨k, lt, -⟩ := step_within (m := m.toMachine) within ready
    exact absurd (Nat.lt_of_lt_of_le lt le) (Nat.not_lt_zero k)
  | succ bound ih =>
    rw [rounds]
    split
    · assumption
    · next unfinished =>
      obtain ⟨t, lt, ready⟩ := h.exists_ready ends settled (Bool.eq_false_iff.2 unfinished)
      obtain ⟨stance', after⟩ := h.leads keeps.machine (leads_round keeps run)
      rcases steps_within (m := m.toMachine) within (List.range run.tasks.length) with
        ⟨k, less, within'⟩ | ⟨-, blocked⟩
      · exact ih after (World.settled_settle keeps _) within'
          (Nat.le_of_lt_succ (Nat.lt_of_lt_of_le less le))
      · exact absurd ready (blocked t (List.mem_range.2 lt))

/-- From wherever the tasks have got, rounds finish all of them. -/
theorem complete_finished (keeps : m.Keeps allows clean)
    (ends : ∀ t result st, Q t result st → st.hold = .nothing)
    (h : run.Coherent m.toMachine allows clean past known Q stance) {waits : Nat}
    (left : ∀ state ∈ run.tasks, state.Left waits) : (run.complete m waits).isFinished = true := by
  unfold complete
  cases size : run.tasks.length with
  | zero =>
    rw [Nat.zero_mul, rounds, isFinished, List.eq_nil_of_length_eq_zero size]
    rfl
  | succ size' =>
    rw [Nat.succ_mul, ← Nat.add_assoc, rounds]
    split
    · assumption
    · obtain ⟨stance', after⟩ := h.leads keeps.machine (leads_round keeps run)
      have within := WithinAll.of_forall fun state mem => (left state mem).1
      -- the first round may find an unsettled world; if nobody can go on in it, all tasks have
      -- started
      rcases steps_within (m := m.toMachine) within (List.range run.tasks.length) with
        ⟨k, less, within'⟩ | ⟨same, blocked⟩
      · refine rounds_finished keeps ends after (World.settled_settle keeps _) within' ?_
        rw [size, Nat.succ_mul, ← Nat.add_assoc] at less
        exact Nat.le_of_lt_succ less
      · have started : ∀ state ∈ run.tasks, state.Within waits := fun state mem => by
          refine (left state mem).2 ?_
          obtain ⟨t, there⟩ := List.mem_iff_getElem?.1 mem
          cases state with
          | unstarted p =>
            have lt := (List.getElem?_eq_some_iff.1 there).1
            exact absurd (.inl ⟨p, there⟩) (blocked t (List.mem_range.2 lt))
          | waiting r next cancelled | finished result => rfl
        have within' : WithinAll (run.round m).tasks (run.tasks.length * waits) := by
          rw [Run.round, same]
          exact .of_forall started
        refine rounds_finished keeps ends after (World.settled_settle keeps _) within' ?_
        rw [size, Nat.succ_mul, Nat.mul_succ]
        omega

end Run.Coherent

end RecordAudit
