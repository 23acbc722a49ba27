import RecordAudit.Proofs.Session.Attendance
import RecordAudit.Proofs.Session.ExclusiveScopes

/-!
# Checks run undisturbed

A task that is cancelled during a check waits for the end of the check all the same, unless it is
cancelled again. In runs in which that happens to no task, no call is made to a session while a
check of the session runs, however many tasks are cancelled, wherever they wait.
-/

namespace RecordAudit

variable {σ α : Type} {m : Machine σ} {allows : Replies} {clean : σ → Prop}
  {past : SessionId → List (TaskId × Call)} {w w' : World σ} {stance : TaskId → Stance}
  {t : TaskId} {st : Stance}

/-! ## Runs -/

theorem World.checks_deliver (w : World σ) (c : CreationId) (outcome : Except Fault σ) :
    (w.deliver c outcome).checks = w.checks :=
  w.deliver_cases c outcome (fun _ => rfl) (fun _ _ _ => rfl) fun _ _ _ => rfl

theorem World.checks_request (m : Machine σ) (t : TaskId) (r : Request) (w : World σ) :
    w.checks <+: (w.request m t r).2.checks := by
  have call : ∀ s c (w : World σ), (w.call m.backend t s c).2.checks = w.checks := fun s c w => by
    unfold World.call
    split <;> rfl
  cases r with
  | push s | pop s | add s a => exact (call s _ w).symm ▸ List.prefix_rfl
  | startCheck s τ =>
    have started := call s (.check τ) (w.updateSession s fun session =>
      { session with checks := session.checks + 1 })
    change _ <+: (World.call _ _ _ _ _).2.checks ++ [_]
    rw [started]
    exact List.prefix_append _ _
  | startCreation =>
    have same : (w.startCreation m).2.checks = w.checks := by
      unfold World.startCreation
      dsimp only
      split
      · rw [World.checks_deliver]
      · rfl
    exact same.symm ▸ List.prefix_rfl
  | acquire l | release l => cases l <;> exact List.prefix_rfl
  | claim | disclaim | owns | awaitCheck | shared | awaitCreation | install | forget =>
    exact List.prefix_rfl

theorem Program.checks_advance (m : Machine σ) (t : TaskId) (p : Program (Except Interrupt α))
    (w : World σ) :
    w.checks <+: (p.advance m t w).2.checks := by
  induction p generalizing w with
  | done result => exact List.prefix_rfl
  | ask r next ih =>
    have asked := w.checks_request m t r
    rw [Program.advance]
    split
    · next response w' e =>
      rw [e] at asked
      exact asked.trans (ih response w')
    · next w' e =>
      rw [e] at asked
      exact asked

/-- A check that was there and runs now has run before. -/
theorem World.mem_openChecks_of_prefix (same : w.checks <+: w'.checks) {c : CheckId}
    (there : c < w.checks.length) (running : c ∈ w'.openChecks) : c ∈ w.openChecks := by
  obtain ⟨more, e⟩ := same
  rw [mem_openChecks, ← e, List.getElem?_append_left there] at running
  exact mem_openChecks.2 running

theorem World.Logged.endCheck (h : w.Logged) (c : CheckId) : (w.endCheck c).Logged := by
  refine w.endCheck_cases c (fun _ => h) fun check there _ => ?_
  refine ⟨h.alone, h.created, ?_, fun c' check' e ended => ?_, h.undisturbed.ended c⟩
  · simpa [checksStarted, Occurrence.startsCheck] using h.started
  · by_cases same : c = c'
    · exact same ▸ List.mem_cons_self
    · rw [List.getElem?_set_ne same] at e
      exact List.mem_cons_of_mem _ (h.ended c' check' e ended)

theorem World.Attended.endCheck (h : w.Attended m allows clean past stance) (c : CheckId) :
    (w.endCheck c).Attended m allows clean past stance := by
  refine ⟨h.consistent.endCheck c, h.logged.endCheck c, fun c' running => h.attended c' ?_⟩
  rw [mem_openChecks, checks_endCheck] at running
  exact mem_openChecks.2 running.1

namespace Run

/-- Whether the event makes a task go on without the answer of a check that runs. -/
def deserts (run : Run σ α) (c : CheckId) : Event σ → Bool
  | .step t =>
    match run.tasks[t]? with
    | some (.waiting (.awaitCheck c') _ true) => c' == c && run.world.openChecks.contains c
    | _ => false
  | _ => false

/-- How often events make a task go on without the answer of a check that runs. -/
def desertions (m : Machine σ) (c : CheckId) : Run σ α → List (Event σ) → Nat
  | _, [] => 0
  | run, e :: events => (run.deserts c e).toNat + (run.apply m e).desertions m c events

theorem mem_openChecks_of_deserts {run : Run σ α} {c : CheckId} {e : Event σ}
    (h : run.deserts c e = true) :
    c ∈ run.world.openChecks := by
  unfold deserts at h
  split at h
  · split at h
    · simp only [Bool.and_eq_true, List.contains_iff_mem] at h
      exact h.2
    · cases h
  · cases h

theorem checks_step (m : Machine σ) (t : TaskId) (run : Run σ α) :
    run.world.checks <+: (run.step m t).world.checks := by
  unfold Run.step
  split
  · next p there => exact p.checks_advance m t run.world
  · next r next there =>
    split
    · next response w' cancelled =>
      have same : w'.checks = run.world.checks := by
        cases r with
        | acquire l =>
          obtain ⟨-, rfl⟩ := Prod.mk.inj (Option.some.inj cancelled)
          cases l <;> rfl
        | awaitCheck c | awaitCreation c =>
          obtain ⟨-, rfl⟩ := Prod.mk.inj (Option.some.inj cancelled)
          rfl
        | _ => cases cancelled
      exact same ▸ (next response).checks_advance m t w'
    · exact List.prefix_rfl
  · next r next there =>
    split
    · next response came => exact (next response).checks_advance m t run.world
    · exact List.prefix_rfl
  · exact List.prefix_rfl

theorem mem_openChecks_of_apply {run : Run σ α} {c : CheckId} {e : Event σ}
    (there : c < run.world.checks.length) (running : c ∈ (run.apply m e).world.openChecks) :
    c ∈ run.world.openChecks := by
  cases e with
  | step t => exact World.mem_openChecks_of_prefix (run.checks_step m t) there running
  | endCheck c' =>
    change c ∈ (run.world.endCheck c').openChecks at running
    rw [World.mem_openChecks, World.checks_endCheck] at running
    exact World.mem_openChecks.2 running.1
  | deliver c' outcome =>
    refine World.mem_openChecks_of_prefix ?_ there running
    exact (run.world.checks_deliver c' outcome).symm ▸ List.prefix_rfl
  | cancel t =>
    have same : (run.cancel t).world = run.world := by
      unfold Run.cancel
      split <;> rfl
    change c ∈ (run.cancel t).world.openChecks at running
    rwa [same] at running

/-- Who has been left without the answer of a check after an event, was so before or has become so
with the event. -/
def LeftSince (run : Run σ α) (e : Event σ) (stance : TaskId → Stance) (left : TaskId → Bool)
    (stance' : TaskId → Stance) (left' : TaskId → Bool) : Prop :=
  ∀ u c, left' u = true → (stance' u).hold.WaitsFor c →
    (stance u).hold.WaitsFor c ∧
      (left u = true ∨ (c ∈ run.world.openChecks → run.deserts c e = true))

/-- The world and all tasks of a run go with the stances. -/
structure Attended (m : Machine σ) (allows : Replies) (clean : σ → Prop)
    (past : SessionId → List (TaskId × Call)) (run : Run σ α) (stance : TaskId → Stance)
    (left : TaskId → Bool) : Prop where
  world : run.world.Attended m allows clean past stance
  tasks : ∀ (t : TaskId) state, run.tasks[t]? = some state →
    state.Endures allows (stance t) (left t)

namespace Attended

variable {run : Run σ α} {left : TaskId → Bool}

theorem setTask (h : run.Attended m allows clean past stance left) {state : TaskState α}
    (there : run.tasks[t]? = some state) (next : TaskState α × World σ) {left' : Bool}
    (endures : next.1.Endures allows st left')
    (world : next.2.Attended m allows clean past (Function.update stance t st)) :
    (run.setTask t next).Attended m allows clean past (Function.update stance t st)
      (Function.update left t left') := by
  have lt : t < run.tasks.length := (List.getElem?_eq_some_iff.1 there).1
  refine ⟨world, fun u state' there' => ?_⟩
  rw [Run.setTask, List.getElem?_set] at there'
  by_cases e : t = u
  · subst e
    simp only [if_true, lt] at there'
    cases there'
    rw [Function.update_self, Function.update_self]
    exact endures
  · rw [if_neg e] at there'
    rw [Function.update_of_ne (Ne.symm e), Function.update_of_ne (Ne.symm e)]
    exact h.tasks u state' there'

/-- A step of a task that may be left without the answer of a check once while it runs. -/
theorem step (h : run.Attended m allows clean past stance left) (keeps : m.Keeps allows clean)
    (t : TaskId) (patient : ∀ c, left t = true → (stance t).hold.WaitsFor c →
      run.deserts c (.step t) = false) :
    ∃ stance' left', (run.step m t).Attended m allows clean past stance' left' ∧
      run.LeftSince (.step t) stance left stance' left' := by
  have others : ∀ (st' : Stance) (left' : Bool),
      (left' = true → st' = stance t ∧ ∀ c, (stance t).hold.WaitsFor c → c ∈ run.world.openChecks →
        run.deserts c (.step t) = true) →
      run.LeftSince (.step t) stance left (Function.update stance t st')
          (Function.update left t left') := by
    intro st' left' here u c was waits
    by_cases same : u = t
    · subst same
      rw [Function.update_self] at was waits
      obtain ⟨rfl, deserting⟩ := here was
      exact ⟨waits, .inr (deserting c waits)⟩
    · rw [Function.update_of_ne same] at was waits
      exact ⟨waits, .inl was⟩
  have unchanged : run.LeftSince (.step t) stance left stance left :=
    fun u c was waits => ⟨waits, .inl was⟩
  unfold Run.step
  split
  · next p there =>
    obtain ⟨idle, endures⟩ := h.tasks t _ there
    obtain ⟨st', left', fits, world, same⟩ := Program.advance_endures keeps h.world endures
    exact ⟨_, _, h.setTask there _ fits world, others st' left' fun was =>
      absurd (same was).1 Bool.false_ne_true⟩
  · next r next there =>
    split
    · next response w' cancelled =>
      -- A cancelled wait for a running check is just what counts as desertion.
      have deserting : ∀ c, r = .awaitCheck c → c ∈ run.world.openChecks →
          run.deserts c (.step t) = true := by
        rintro c rfl running
        simp [deserts, there, running]
      have waiting : ∀ c, r = .awaitCheck c → ∀ c', (stance t).hold.WaitsFor c' ↔ c = c' := by
        rintro c rfl c'
        obtain ⟨⟨s, n, calls, τ, hold, -⟩, -⟩ := h.tasks t _ there
        rw [hold]
        rfl
      have once : left t = true → ∀ c, r = .awaitCheck c →
          c ∉ run.world.openChecks := fun was c e running => by
        have not_again := patient c was ((waiting c e c).2 rfl)
        rw [deserting c e running] at not_again
        cases not_again
      obtain ⟨st₁, left₁, endures, world, first⟩ :=
        h.world.interrupt (h.tasks t _ there) cancelled once
      obtain ⟨st', left', fits, world, same⟩ :=
        Program.advance_endures keeps world (by rwa [Function.update_self])
      rw [Function.update_idem] at world
      refine ⟨_, _, h.setTask there _ fits world, others st' left' fun was => ?_⟩
      obtain ⟨was₁, rfl⟩ := same was
      obtain ⟨rfl, c, e⟩ := first was₁
      refine ⟨Function.update_self t _ _, fun c' waits => ?_⟩
      obtain rfl := (waiting c e c').1 waits
      exact deserting c e
    · exact ⟨stance, left, h, unchanged⟩
  · next r next there =>
    split
    · next response came =>
      obtain ⟨st₁, endures, world⟩ := h.world.respond (h.tasks t _ there) came
      obtain ⟨st', left', fits, world, same⟩ :=
        Program.advance_endures keeps world (by rwa [Function.update_self])
      rw [Function.update_idem] at world
      exact ⟨_, _, h.setTask there _ fits world, others st' left' fun was =>
        absurd (same was).1 Bool.false_ne_true⟩
    · exact ⟨stance, left, h, unchanged⟩
  · exact ⟨stance, left, h, unchanged⟩

/-- Any event does. -/
theorem apply (h : run.Attended m allows clean past stance left) (keeps : m.Keeps allows clean)
    (e : Event σ) (patient : ∀ t c, left t = true → (stance t).hold.WaitsFor c →
      run.deserts c e = false) :
    ∃ stance' left', (run.apply m e).Attended m allows clean past stance' left' ∧
      run.LeftSince e stance left stance' left' := by
  have unchanged : run.LeftSince e stance left stance left := fun u c was waits => ⟨waits, .inl was⟩
  cases e with
  | step t => exact h.step keeps t (patient t)
  | endCheck c => exact ⟨stance, left, ⟨h.world.endCheck c, h.tasks⟩, unchanged⟩
  | deliver c outcome =>
    have nothing : run.world.deliver c outcome = run.world := by
      simp [World.deliver, h.world.logged.created]
    refine ⟨stance, left, ⟨?_, h.tasks⟩, unchanged⟩
    rw [Run.apply, nothing]
    exact h.world
  | cancel t =>
    have put : ∀ {state next : TaskState α}, run.tasks[t]? = some state →
        next.Endures allows (stance t) (left t) →
        (run.setTask t (next, run.world)).Attended m allows clean past stance left := by
      intro state next there endures
      have after := h.setTask there (next, run.world) endures
        (by rw [Function.update_eq_self]; exact h.world)
      rwa [Function.update_eq_self, Function.update_eq_self] at after
    refine ⟨stance, left, ?_, unchanged⟩
    change (run.cancel t).Attended m allows clean past stance left
    unfold Run.cancel
    split
    · next p there => exact put there (h.tasks t _ there).1
    · next r next was there =>
      have endures := h.tasks t _ there
      exact put there (by cases r <;> exact endures)
    · exact h

/-- So does every sequence of events in which no task is left twice without the answer of a check
that runs. -/
theorem applyAll (h : run.Attended m allows clean past stance left) (keeps : m.Keeps allows clean)
    {events : List (Event σ)} (once : ∀ c, run.desertions m c events ≤ 1)
    (never : ∀ t c, left t = true → (stance t).hold.WaitsFor c → c ∈ run.world.openChecks →
      run.desertions m c events = 0) :
    ∃ stance' left', (run.applyAll m events).Attended m allows clean past stance' left' := by
  -- Who has been left once is remembered along the events: no event that is to come may leave it
  -- again.
  induction events generalizing run stance left with
  | nil => exact ⟨stance, left, h⟩
  | cons e rest ih =>
    have patient : ∀ t c, left t = true → (stance t).hold.WaitsFor c → run.deserts c e = false := by
      intro t c was waits
      rw [Bool.eq_false_iff]
      intro deserting
      have none_left := never t c was waits (mem_openChecks_of_deserts deserting)
      simp [desertions, deserting] at none_left
    obtain ⟨stance', left', after, since⟩ := h.apply keeps e patient
    refine ih after (fun c => ?_) fun u c was waits running => ?_
    · exact Nat.le_trans (Nat.le_add_left _ _) (once c)
    · obtain ⟨before, here⟩ := since u c was waits
      have opened : c ∈ run.world.openChecks :=
        mem_openChecks_of_apply (h.world.there before) running
      have bound := once c
      rw [desertions] at bound
      rcases here with was | deserting
      · exact Nat.eq_zero_of_add_eq_zero_left (never u c was before opened)
      · rw [deserting opened, Bool.toNat_true] at bound
        omega

end Attended

end Run

/-! ## The theorem -/

theorem World.single_attended {allows : Replies} {state : σ} (isClean : clean state) :
    (World.single state).Attended m allows clean (World.single state).callsOn fun _ =>
      .idle [0] := by
  have there : ∀ s ∈ [0], s < (World.single state).sessions.length := by
    intro s known
    rw [List.mem_singleton.1 known]
    exact Nat.zero_lt_one
  have unchecked : ∀ (c : CheckId) (check : RunningCheck), (World.single state).checks[c]? =
      some check → check.ended = true → .ended c ∈ (World.single state).history := by
    intro c check started
    simp [World.single, World.addSession, World.empty] at started
  exact ⟨(World.single_atRest isClean).consistent there, ⟨rfl, rfl, rfl, unchecked, .nil⟩,
    fun _ running => by cases running⟩

/-- Tasks use the scopes of a session in any order of steps, and are cancelled wherever they wait.
As long as no task goes on twice without the answer of a check that still runs, every call finds all
checks ended that were started before. -/
theorem checks_undisturbed {b : Backend σ} {state : σ} (steady : b.Steady state)
    (tasks : List (ScopeTask 0)) (events : List (Event σ))
    (once : ∀ c, (Run.ofPrograms (.single state) (tasks.map ScopeTask.run)).desertions b.machine
      c events ≤ 1) :
    Undisturbed
      ((Run.ofPrograms (.single state) (tasks.map ScopeTask.run)).applyAll b.machine
        events).world.history := by
  have start : (Run.ofPrograms (.single state) (tasks.map ScopeTask.run)).Attended b.machine
      steadyReplies (b.AfterBlocks state) (World.single state).callsOn (fun _ => .idle [0]) fun _ =>
        false := by
    refine ⟨World.single_attended ⟨[], List.forall_mem_nil _, rfl⟩, fun t state there => ?_⟩
    simp only [Run.ofPrograms, List.map_map, List.getElem?_map, Option.map_eq_some_iff] at there
    obtain ⟨task, -, rfl⟩ := there
    have idle : (Stance.idle [0]).hold = .nothing := rfl
    have endures := (task.endures steadyReplies_steady idle (by simp [Stance.idle])).followed .done
      fun _ _ done => done
    rw [Program.bind_done] at endures
    exact ⟨idle, endures⟩
  obtain ⟨stance, left, h⟩ :=
    start.applyAll steady.keeps once fun _ _ stays => absurd stays Bool.false_ne_true
  exact h.world.logged.undisturbed

/-- A task that checks once, in a scope of its own. -/
def ScopeTask.checkOnce : ScopeTask 0 := .visit (Session.check 0 none) (.check none) fun _ => .done

/-- Tasks that check once have a scripted backend. -/
def Run.checkingOnce (n : Nat) : Run Script Nat :=
  .ofPrograms (.single (.ofOutcomes [])) ((List.replicate n ScopeTask.checkOnce).map ScopeTask.run)

/-- Each of two tasks is cancelled while it waits, the first one again when its check has ended. -/
theorem checks_undisturbed_script :
    Undisturbed ((Run.checkingOnce 2).applyAll Script.backend.machine [.step 0, .step 1, .cancel 0,
      .step 0, .endCheck 0, .cancel 0, .step 0, .cancel 1, .step 1]).world.history := by
  refine checks_undisturbed ⟨fun _ => rfl, fun _ _ => rfl⟩ (List.replicate 2 .checkOnce) _ fun c =>
    ?_
  match c with
  | 0 | 1 => decide +kernel
  | c + 2 => exact Nat.zero_le 1

/-- A task that is cancelled twice while its check runs leaves its scope before the check has
ended. -/
theorem disturbed_of_cancelled_twice :
    ¬ Undisturbed ((Run.checkingOnce 1).applyAll Script.backend.machine [.step 0, .cancel 0,
      .step 0, .cancel 0, .step 0]).world.history := by
  intro undisturbed
  have ended := undisturbed [] 0 0 .pop [.called 0 0 (.check none), .called 0 0 .push]
    rfl 0 (by decide)
  simp at ended

end RecordAudit
