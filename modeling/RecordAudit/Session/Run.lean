import RecordAudit.Session.World

/-!
# Runs

Tasks run side by side on what they share. A run is driven by events: a task takes a step, a check
or a creation ends, a task is cancelled. A step takes a task from one place where it waits to the
next, so that every order of events is an interleaving of the tasks at their waiting places.
-/

namespace RecordAudit

variable {σ α : Type}

/-- Where a task is in its program. -/
inductive TaskState (α : Type) where
  | unstarted (p : Program (Except Interrupt α))
  /-- The task waits with a request, and may have been cancelled meanwhile. -/
  | waiting (r : Request) (next : r.Response → Program (Except Interrupt α)) (cancelled : Bool)
  | finished (result : Except Interrupt α)

namespace TaskState

def result? : TaskState α → Option (Except Interrupt α)
  | .finished result => some result
  | _ => none

end TaskState

/-- Runs a program up to the next place where it has to wait. -/
def Program.advance (m : Machine σ) (t : TaskId) :
    Program (Except Interrupt α) → World σ → TaskState α × World σ
  | .done result, w => (.finished result, w)
  | .ask r next, w =>
    match w.request m t r with
    | (some response, w) => (next response).advance m t w
    | (none, w) => (.waiting r next false, w)

structure Run (σ α : Type) where
  world : World σ
  tasks : List (TaskState α)
  /-- The tasks that have finished, first ones first. -/
  order : List TaskId

inductive Event (σ : Type) where
  /-- A task goes on, if it can. -/
  | step (t : TaskId)
  /-- A check ends. -/
  | endCheck (c : CheckId)
  /-- A creation ends. -/
  | deliver (c : CreationId) (outcome : Except Fault σ)
  /-- A task is cancelled. -/
  | cancel (t : TaskId)

namespace Run

def ofPrograms (w : World σ) (programs : List (TaskM α)) : Run σ α :=
  ⟨w, programs.map fun p => .unstarted p.run, []⟩

/-- Puts a task into its new place. -/
def setTask (run : Run σ α) (t : TaskId) (next : TaskState α × World σ) : Run σ α where
  world := next.2
  tasks := run.tasks.set t next.1
  order := if next.1.result?.isSome then run.order ++ [t] else run.order

/-- The task goes on, if it need not wait any longer. A cancelled task goes on without an answer. -/
def step (m : Machine σ) (t : TaskId) (run : Run σ α) : Run σ α :=
  match run.tasks[t]? with
  | some (.unstarted p) => run.setTask t (p.advance m t run.world)
  | some (.waiting r next true) =>
    match run.world.cancelled? t r with
    | some (response, w) => run.setTask t ((next response).advance m t w)
    | none => run
  | some (.waiting r next false) =>
    match run.world.response? t r with
    | some response => run.setTask t ((next response).advance m t run.world)
    | none => run
  | _ => run

/-- Cancels a task. One that has not started never starts. -/
def cancel (t : TaskId) (run : Run σ α) : Run σ α :=
  match run.tasks[t]? with
  | some (.unstarted _) => run.setTask t (.finished (.error .cancelled), run.world)
  | some (.waiting r next _) => { run with tasks := run.tasks.set t (.waiting r next true) }
  | _ => run

def apply (m : Machine σ) (run : Run σ α) : Event σ → Run σ α
  | .step t => run.step m t
  | .endCheck c => { run with world := run.world.endCheck c }
  | .deliver c outcome => { run with world := run.world.deliver c outcome }
  | .cancel t => run.cancel t

/-- Every event of a list in turn. -/
def applyAll (m : Machine σ) (run : Run σ α) (events : List (Event σ)) : Run σ α :=
  events.foldl (apply m) run

def isFinished (run : Run σ α) : Bool := run.tasks.all (·.result?.isSome)

/-- The results of all tasks in the order of the tasks, or the first interrupt in the order of
time. -/
def results (run : Run σ α) : Except Interrupt (List α) := do
  let inTime := run.order.filterMap fun t => run.tasks[t]?.bind TaskState.result?
  for result in inTime do
    let _ ← result
  (run.tasks.filterMap TaskState.result?).mapM id

end Run

end RecordAudit
