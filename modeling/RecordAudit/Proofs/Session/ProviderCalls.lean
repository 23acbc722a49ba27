import Mathlib.Logic.Relation
import RecordAudit.Proofs.Session.Queue
import RecordAudit.Proofs.Session.Results

/-!
# Calls to the provider of sessions

Tasks that make one call each to the provider of the shared session: they ask for it, or discard it.
Such a task waits at two places at most, for the lock and for the creation of a session. What it
does between two places where it waits is taken apart into moves, each of which changes one thing
that the tasks share.
-/

namespace RecordAudit

variable {σ : Type}

/-! ## Calls -/

/-- A call to the provider of the shared session. -/
inductive ProviderCall where
  | get
  | discard
  deriving DecidableEq

/-- A task that makes one call. A task that makes several of them takes the steps of such tasks in
turn. -/
def ProviderCall.task : ProviderCall → TaskM (Option SessionId)
  | .get => do return some (← Session.get)
  | .discard => do
    Session.discard
    return none

/-- The programs of tasks that make a call. -/
abbrev CallProgram := Program (Except Interrupt (Option SessionId))

/-- What is left to do when a session is shared: the task gives the lock back, and looks again. -/
def afterGuard : CallProgram :=
  .ask (.release .provider) fun _ => .ask .shared fun
    | some s => .done (.ok (some s))
    | none => .done (.error (.fault (.noSession "scope")))

/-- What is left to do when a creation has ended. -/
def afterCreation : Option (Except Fault SessionId) → CallProgram
  | some (.ok s) => .ask (.install s) fun _ => afterGuard
  | some (.error fault) => .ask (.release .provider) fun _ => .done (.error (.fault fault))
  | none => .ask (.release .provider) fun _ => .done (.error .cancelled)

/-- What is left to do when the lock has been acquired. -/
def afterAcquire : Option Unit → CallProgram
  | some () => .ask .shared fun
    | some _ => afterGuard
    | none => .ask .startCreation fun c => .ask (.awaitCreation c) afterCreation
  | none => .done (.error .cancelled)

theorem ProviderCall.run_current :
    (do return some (← Session.current) : TaskM (Option SessionId)).run = .ask .shared fun
    | some s => .done (.ok (some s))
    | none => .done (.error (.fault (.noSession "scope"))) :=
  congrArg (Program.ask .shared) (funext fun shared => by cases shared <;> rfl)

theorem ProviderCall.run_get : ProviderCall.get.task.run = .ask .shared fun
    | some s => .done (.ok (some s))
    | none => .ask (.acquire .provider) afterAcquire := by
  refine congrArg (Program.ask .shared) (funext fun shared => ?_)
  cases shared with
  | some s => rfl
  | none =>
    refine congrArg (Program.ask (.acquire .provider)) (funext fun acquired => ?_)
    cases acquired with
    | none => rfl
    | some _ =>
      refine congrArg (Program.ask .shared) (funext fun shared => ?_)
      cases shared with
      | some s => exact congrArg (Program.ask (.release .provider)) (funext fun _ => run_current)
      | none =>
        refine congrArg (Program.ask .startCreation) (funext fun c => ?_)
        refine congrArg (Program.ask (.awaitCreation c)) (funext fun outcome => ?_)
        match outcome with
        | none | some (.error _) => rfl
        | some (.ok s) =>
          refine congrArg (Program.ask (.install s)) (funext fun _ => ?_)
          exact congrArg (Program.ask (.release .provider)) (funext fun _ => run_current)

/-! ## Stages -/

/-- How far a task is with its call. -/
inductive Stage where
  | unstarted (call : ProviderCall)
  /-- The task waits for the lock. It may have been handed the lock already. -/
  | queued
  /-- The task holds the lock and waits for the end of a creation. -/
  | creating (c : CreationId)
  | discarded
  | returned (s : SessionId)
  | failed (fault : Fault)

namespace Stage

def call : Stage → ProviderCall
  | .unstarted call => call
  | .discarded => .discard
  | .queued | .creating _ | .returned _ | .failed _ => .get

def isQueued : Stage → Bool
  | .queued => true
  | _ => false

def isCreating : Stage → Bool
  | .creating _ => true
  | _ => false

def isFinished : Stage → Bool
  | .discarded | .returned _ | .failed _ => true
  | _ => false

/-- How many places where a task may wait are left from a stage on. -/
def rank : Stage → Nat
  | .unstarted _ => 3
  | .queued => 2
  | .creating _ => 1
  | _ => 0

def state : Stage → TaskState (Option SessionId)
  | .unstarted call => .unstarted call.task.run
  | .queued => .waiting (.acquire .provider) afterAcquire false
  | .creating c => .waiting (.awaitCreation c) afterCreation false
  | .discarded => .finished (.ok none)
  | .returned s => .finished (.ok (some s))
  | .failed fault => .finished (.error (.fault fault))

/-- Where a task comes to that goes on from a stage. -/
def advance (m : Machine σ) (t : TaskId) (w : World σ) :
    Stage → TaskState (Option SessionId) × World σ
  | .unstarted call => call.task.run.advance m t w
  | .queued =>
    match w.response? t (.acquire .provider) with
    | some response => (afterAcquire response).advance m t w
    | none => (queued.state, w)
  | .creating c =>
    match w.response? t (.awaitCreation c) with
    | some response => (afterCreation response).advance m t w
    | none => ((creating c).state, w)
  | .discarded => (discarded.state, w)
  | .returned s => ((returned s).state, w)
  | .failed fault => ((failed fault).state, w)

theorem isSome_result?_state (st : Stage) : st.state.result?.isSome = st.isFinished := by
  cases st <;> rfl

end Stage

namespace Run

variable {run : Run σ (Option SessionId)} {t : TaskId} {st : Stage}

theorem setTask_self (there : run.tasks[t]? = some st.state) (unfinished : st.isFinished = false) :
    run.setTask t (st.state, run.world) = run := by
  have inPlace : run.tasks.set t st.state = run.tasks := by
    obtain ⟨lt, same⟩ := List.getElem?_eq_some_iff.1 there
    rw [← same, List.set_getElem_self]
  rw [setTask, st.isSome_result?_state, unfinished, inPlace]
  rfl

theorem setTask_setTask {w : World σ} (unfinished : st.isFinished = false)
    (next : TaskState (Option SessionId) × World σ) :
    (run.setTask t (st.state, w)).setTask t next = run.setTask t next := by
  simp [setTask, st.isSome_result?_state, unfinished]

theorem step_eq_advance (m : Machine σ) (there : run.tasks[t]? = some st.state)
    (unfinished : st.isFinished = false) :
    run.step m t = run.setTask t (st.advance m t run.world) := by
  cases st with
  | unstarted call =>
    unfold step
    rw [there]
    rfl
  | queued | creating c =>
    have self := setTask_self there unfinished
    unfold step
    rw [there]
    unfold Stage.advance
    dsimp only [Stage.state]
    split
    · next came => rw [came]
    · next none => rw [none]; exact self.symm
  | discarded | returned s | failed fault => cases unfinished

end Run

/-! ## Moves -/

def World.unlocked (w : World σ) : World σ := w.setLock .provider (w.lock .provider).release

/-- What the tasks share, how far each of them is, which of them have finished, and which of them
started the creations. -/
structure Scene (σ : Type) where
  world : World σ
  stage : TaskId → Option Stage
  /-- The tasks that have finished, first ones first. -/
  order : List TaskId
  /-- For each creation the task that started it. -/
  makers : List TaskId

def Scene.put (a : Scene σ) (t : TaskId) (st : Stage) (w : World σ) : Scene σ where
  world := w
  stage := Function.update a.stage t (some st)
  order := if st.isFinished then a.order ++ [t] else a.order
  makers := a.makers

namespace Scene

variable {a : Scene σ} {t u : TaskId} {st x : Stage} {w : World σ}

@[simp] theorem put_world : (a.put t st w).world = w := rfl

@[simp] theorem put_makers : (a.put t st w).makers = a.makers := rfl

@[simp] theorem put_stage_self : (a.put t st w).stage t = some st := Function.update_self ..

theorem put_stage_of_ne (other : u ≠ t) : (a.put t st w).stage u = a.stage u :=
  Function.update_of_ne other ..

/-- Who is in a stage when a task has been put into another one is this task, or was in the stage
before. -/
theorem put_stage_cases (there : (a.put t st w).stage u = some x) :
    u = t ∧ st = x ∨ u ≠ t ∧ a.stage u = some x := by
  by_cases same : u = t
  · subst same
    rw [put_stage_self] at there
    exact .inl ⟨rfl, Option.some.inj there⟩
  · rw [put_stage_of_ne same] at there
    exact .inr ⟨same, there⟩

end Scene

/-- The moves of a task. -/
inductive Move (m : Machine σ) (t : TaskId) (a : Scene σ) : Scene σ → Prop
  | discard (there : a.stage t = some (.unstarted .discard)) :
    Move m t a (a.put t .discarded { a.world with shared := none })
  /-- A session is shared, and the lock is not asked for. -/
  | pick {s : SessionId} (there : a.stage t = some (.unstarted .get))
      (shared : a.world.shared = some s) :
    Move m t a (a.put t (.returned s) a.world)
  | queue (there : a.stage t = some (.unstarted .get)) (unshared : a.world.shared = none) :
    Move m t a (a.put t .queued (a.world.setLock .provider ((a.world.lock .provider).acquire t)))
  /-- Another task has created a session meanwhile. -/
  | find {s : SessionId} (there : a.stage t = some .queued)
      (granted : (a.world.lock .provider).holder = some t)
    (shared : a.world.shared = some s) : Move m t a (a.put t (.returned s) a.world.unlocked)
  | create (there : a.stage t = some .queued) (granted : (a.world.lock .provider).holder = some t)
    (unshared : a.world.shared = none) :
    Move m t a { a.put t (.creating (a.world.startCreation m).1) (a.world.startCreation m).2 with
      makers := a.makers ++ [t] }
  | install {c : CreationId} {s : SessionId} (there : a.stage t = some (.creating c))
    (ended : a.world.creations[c]? = some (some (.ok s))) :
    Move m t a (a.put t (.returned s)
      { a.world with shared := some s, created := a.world.created + 1 : World σ }.unlocked)
  | fail {c : CreationId} {fault : Fault} (there : a.stage t = some (.creating c))
    (ended : a.world.creations[c]? = some (some (.error fault))) :
    Move m t a (a.put t (.failed fault) a.world.unlocked)

/-- The moves of a task until it finishes or has to wait. -/
abbrev Moves (m : Machine σ) (t : TaskId) : Scene σ → Scene σ → Prop :=
  Relation.ReflTransGen (Move m t)

namespace Move

variable {m : Machine σ} {t : TaskId} {a b : Scene σ} {st : Stage}

/-- A move takes one task that has not finished to a later stage. -/
theorem stages (move : Move m t a b) : ∃ st st', a.stage t = some st ∧ st.isFinished = false ∧
    st'.rank < st.rank ∧ b.stage = Function.update a.stage t (some st') ∧
    b.order = (if st'.isFinished then a.order ++ [t] else a.order) ∧
    st.advance m t a.world = st'.advance m t b.world := by
  cases move with
  | discard there => exact ⟨_, .discarded, there, rfl, by decide, rfl, rfl, rfl⟩
  | pick there shared =>
    refine ⟨_, .returned _, there, rfl, by simp [Stage.rank], rfl, rfl, ?_⟩
    simp [Stage.advance, ProviderCall.run_get, Program.advance, World.request, shared,
      Stage.state, Scene.put]
  | queue there unshared =>
    refine ⟨_, .queued, there, rfl, by decide, rfl, rfl, ?_⟩
    simp only [Stage.advance, ProviderCall.run_get, Program.advance, World.request,
      unshared, Scene.put]
    cases (a.world.setLock .provider ((a.world.lock .provider).acquire t)).response? t
      (.acquire .provider) <;> rfl
  | find there granted shared =>
    refine ⟨_, .returned _, there, rfl, by simp [Stage.rank], rfl, rfl, ?_⟩
    simp [Stage.advance, afterAcquire, afterGuard, Program.advance, World.request, World.response?,
      granted, shared, Stage.state, Scene.put, World.unlocked, World.setLock]
  | create there granted unshared =>
    refine ⟨_, .creating _, there, rfl, by simp [Stage.rank], rfl, rfl, ?_⟩
    have came : a.world.response? t (.acquire .provider) = some (some ()) := if_pos granted
    simp only [Stage.advance, came, afterAcquire, Program.advance, World.request,
      unshared, Scene.put]
    cases (a.world.startCreation m).2.response? t (.awaitCreation (a.world.startCreation m).1) <;>
      rfl
  | install there ended =>
    refine ⟨_, .returned _, there, rfl, by simp [Stage.rank], rfl, rfl, ?_⟩
    simp [Stage.advance, afterCreation, afterGuard, Program.advance, World.request, World.response?,
      ended, Stage.state, Scene.put, World.unlocked, World.setLock]
  | fail there ended =>
    refine ⟨_, .failed _, there, rfl, by simp [Stage.rank], rfl, rfl, ?_⟩
    simp [Stage.advance, afterCreation, Program.advance, World.request, World.response?, ended,
      Stage.state, Scene.put, World.unlocked]

theorem unfinished (move : Move m t a b) (there : a.stage t = some st) : st.isFinished = false := by
  obtain ⟨st', _, there', unfinished, -⟩ := move.stages
  rw [there] at there'
  cases there'
  exact unfinished

end Move

/-- A task goes on by a move, unless it has to wait or has finished. -/
theorem exists_move {m : Machine σ} {t : TaskId} {a : Scene σ} {st : Stage}
    (there : a.stage t = some st) :
    (∃ b, Move m t a b) ∨ st.advance m t a.world = (st.state, a.world) := by
  cases st with
  | unstarted call =>
    cases call with
    | discard => exact .inl ⟨_, .discard there⟩
    | get =>
      cases shared : a.world.shared with
      | some s => exact .inl ⟨_, .pick there shared⟩
      | none => exact .inl ⟨_, .queue there shared⟩
  | queued =>
    by_cases granted : (a.world.lock .provider).holder = some t
    · cases shared : a.world.shared with
      | some s => exact .inl ⟨_, .find there granted shared⟩
      | none => exact .inl ⟨_, .create there granted shared⟩
    · have waits : a.world.response? t (.acquire .provider) = none := if_neg granted
      refine .inr ?_
      rw [Stage.advance, waits]
  | creating c =>
    match ended : a.world.creations[c]? with
    | some (some (.ok s)) => exact .inl ⟨_, .install there ended⟩
    | some (some (.error fault)) => exact .inl ⟨_, .fail there ended⟩
    | some none | none =>
      refine .inr ?_
      simp [Stage.advance, World.response?, ended]
  | discarded | returned s | failed fault => exact .inr rfl

/-! ## Runs of calls -/

/-- A run is where a scene says it is. -/
structure Run.Shows (run : Run σ (Option SessionId)) (a : Scene σ) : Prop where
  world : run.world = a.world
  tasks : ∀ t, run.tasks[t]? = (a.stage t).map Stage.state
  order : run.order = a.order

namespace Run.Shows

variable {m : Machine σ} {run : Run σ (Option SessionId)} {t : TaskId} {a b : Scene σ} {st : Stage}

/-- A run shows a move when the task is put where the move takes it. -/
theorem move (h : run.Shows a) (there : a.stage t = some st) {st' : Stage}
    (stage : b.stage = Function.update a.stage t (some st'))
    (order : b.order = if st'.isFinished then a.order ++ [t] else a.order) :
    (run.setTask t (st'.state, b.world)).Shows b := by
  have here : run.tasks[t]? = some st.state := by rw [h.tasks, there]; rfl
  refine ⟨rfl, fun u => ?_, ?_⟩
  · rw [stage]
    by_cases same : u = t
    · subst same
      rw [tasks_setTask_self here, Function.update_self]
      rfl
    · have others : (run.setTask t (st'.state, b.world)).tasks[u]? = run.tasks[u]? :=
        List.getElem?_set_ne (Ne.symm same)
      rw [others, Function.update_of_ne same]
      exact h.tasks u
  · rw [setTask, st'.isSome_result?_state, h.order, order]

/-- The moves of a task take it as far as it can go. -/
theorem exists_moves (m : Machine σ) (h : run.Shows a) (there : a.stage t = some st)
    (unfinished : st.isFinished = false) :
    ∃ b, Moves m t a b ∧ (∀ c, ¬Move m t b c) ∧
      (run.setTask t (st.advance m t run.world)).Shows b := by
  induction rank : st.rank using Nat.strongRecOn generalizing run a st with
  | _ n ih =>
    have here : run.tasks[t]? = some st.state := by rw [h.tasks, there]; rfl
    by_cases moves : ∃ b, Move m t a b
    · obtain ⟨b, move⟩ := moves
      obtain ⟨st₁, st', there₁, -, less, stage, order, advance⟩ := move.stages
      rw [there] at there₁
      cases there₁
      have shown := h.move there stage order
      have there' : b.stage t = some st' := by rw [stage, Function.update_self]
      rw [h.world, advance]
      by_cases finished : st'.isFinished = true
      · have ends : st'.advance m t b.world = (st'.state, b.world) := by
          cases st' <;> first | rfl | cases finished
        refine ⟨b, .single move, fun c further => ?_, by rwa [ends]⟩
        rw [further.unfinished there'] at finished
        cases finished
      · have unfinished' : st'.isFinished = false := by simpa using finished
        obtain ⟨c, chain, stuck, shows'⟩ := ih _ (rank ▸ less) shown there' unfinished' rfl
        rw [setTask_setTask unfinished'] at shows'
        exact ⟨c, .head move chain, stuck, shows'⟩
    · have stays := (exists_move there).resolve_left moves
      refine ⟨a, .refl, fun b move => moves ⟨b, move⟩, ?_⟩
      rw [h.world, stays, ← h.world, setTask_self here unfinished]
      exact h

/-- A step of a task that has not finished is a chain of moves. -/
theorem step (m : Machine σ) (h : run.Shows a) (t : TaskId) :
    ∃ b, Moves m t a b ∧ (∀ c, ¬Move m t b c) ∧ (run.step m t).Shows b := by
  cases there : a.stage t with
  | none =>
    have absent : run.tasks[t]? = none := by rw [h.tasks, there]; rfl
    have still : run.step m t = run := by
      unfold Run.step
      rw [absent]
    refine ⟨a, .refl, fun c move => ?_, by rwa [still]⟩
    obtain ⟨st, _, there', -⟩ := move.stages
    rw [there] at there'
    cases there'
  | some st =>
    have here : run.tasks[t]? = some st.state := by rw [h.tasks, there]; rfl
    cases finished : st.isFinished with
    | false =>
      rw [step_eq_advance m here finished]
      exact h.exists_moves m there finished
    | true =>
      have still : run.step m t = run := by
        unfold Run.step
        rw [here]
        cases st <;> first | rfl | cases finished
      refine ⟨a, .refl, fun c move => ?_, by rwa [still]⟩
      rw [move.unfinished there] at finished
      cases finished

end Run.Shows

end RecordAudit
