import RecordAudit.Session.Run

/-!
# Schedules

Two fair orders of events: a single task that runs alone, and rounds in which every task takes a
step and then all checks and creations that were started end.
-/

namespace RecordAudit

variable {σ α : Type}

/-- A machine whose creations end at the latest when nothing else can go on. -/
structure Surroundings (σ : Type) extends Machine σ where
  deliver : CreationId → Except Fault σ

/-- Every session gets the same fresh backend, at once or only when nothing else can go on. -/
def Surroundings.fresh (b : Backend σ) (state : σ) (atOnce : Bool) : Surroundings σ where
  backend := b
  create := fun _ => if atOnce then some (.ok state) else none
  deliver := fun _ => .ok state

namespace World

/-- Ends all checks and creations that were started. -/
def settle (m : Surroundings σ) (w : World σ) : World σ :=
  let w := w.openCreations.foldl (fun w c => w.deliver c (m.deliver c)) w
  w.openChecks.foldl endCheck w

/-- Runs a program as the only task; whatever it waits for ends at once. A program that waits for a
lock which is never released has no result. -/
def runAlone (m : Surroundings σ) (t : TaskId) : Program α → World σ → Option α × World σ
  | .done a, w => (some a, w)
  | .ask r next, w =>
    match w.request m.toMachine t r with
    | (some response, w) => runAlone m t (next response) w
    | (none, w) =>
      let w := w.settle m
      match w.response? t r with
      | some response => runAlone m t (next response) w
      | none => (none, w)

/-- Runs programs one after the other, each on an event loop of its own. -/
def runEach (m : Surroundings σ) (t : TaskId) :
    List (Program α) → World σ → List (Option α) × World σ
  | [], w => ([], w)
  | p :: rest, w =>
    let (result, w) := w.nextLoop.runAlone m t p
    let (results, w) := runEach m t rest w
    (result :: results, w)

end World

namespace Run

/-- Every task takes a step, and then all checks and creations that were started end. -/
def round (m : Surroundings σ) (run : Run σ α) : Run σ α :=
  let run := (List.range run.tasks.length).foldl (fun run t => run.step m.toMachine t) run
  { run with world := run.world.settle m }

/-- Rounds until all tasks have finished, or a bound on their number is reached. -/
def rounds (m : Surroundings σ) : (bound : Nat) → Run σ α → Run σ α
  | 0, run => run
  | bound + 1, run => if run.isFinished then run else rounds m bound (run.round m)

/-- Rounds for tasks that each wait no more than a given number of times. In every round some task
gets past one of its waiting places. -/
def complete (m : Surroundings σ) (waits : Nat) (run : Run σ α) : Run σ α :=
  run.rounds m (run.tasks.length * (waits + 1))

end Run

end RecordAudit
