import RecordAudit.Session.Program

/-!
# Sessions

A session lets many tasks use one backend. A task enters the session's scope to use it: it takes the
session's lock and opens a frame. Only the task that owns the scope may add assertions or check, so
that its frame holds nothing of another task.
-/

namespace RecordAudit

namespace Session

open TaskM

variable {α : Type}

/-- Refuses a task that does not own the session's scope. -/
def requireScope (s : SessionId) : TaskM Unit := do
  if !(← ask (.owns s)) then throw (.fault .outsideScope)

def push (s : SessionId) : TaskM Unit := do ofExcept (← ask (.push s))

def pop (s : SessionId) : TaskM Unit := do ofExcept (← ask (.pop s))

/-- Enters the scope: takes the lock, becomes the owner and opens a frame. When no frame can be
opened the lock is given back. -/
def enter (s : SessionId) : TaskM Unit := do
  answered (← ask (.acquire (.session s)))
  orElse (do ask (.claim s); push s) (ask (.release (.session s)))

/-- Leaves the scope: drops its frame, gives up ownership, and gives the lock back in any case. -/
def leave (s : SessionId) : TaskM Unit :=
  ensuring (do pop s; ask (.disclaim s)) (ask (.release (.session s)))

/-- Runs a body inside the scope. -/
def scope (s : SessionId) (body : TaskM α) : TaskM α := do
  enter s
  ensuring body (leave s)

/-- Opens a frame inside the scope. -/
def openFrame (s : SessionId) : TaskM Unit := do
  requireScope s
  push s

/-- Runs a body in a frame of its own, inside the scope. -/
def frame (s : SessionId) (body : TaskM α) : TaskM α := do
  openFrame s
  ensuring body (pop s)

/-- Adds an assertion to the newest frame. -/
def add (s : SessionId) (assertion : Operand) : TaskM Unit := do
  requireScope s
  ofExcept (← ask (.add s assertion))

/-- Checks all live assertions. A task that is cancelled during the check waits for its end all the
same, because a check cannot be stopped; cancelled again, it waits no longer. -/
def check (s : SessionId) (timeout : Timeout) : TaskM Answer := do
  requireScope s
  let c ← ask (.startCheck s timeout)
  match ← ask (.awaitCheck c) with
  | some answer => ofExcept answer
  | none =>
    let _ ← ask (.awaitCheck c)
    throw .cancelled

/-- Creates the session, unless there is one by now. -/
def create : TaskM Unit := do
  match ← ask .shared with
  | some _ => return ()
  | none =>
    let c ← ask .startCreation
    let s ← ofExcept (← answered (← ask (.awaitCreation c)))
    ask (.install s)

/-- The session that is shared now. -/
def current : TaskM SessionId := do
  match ← ask .shared with
  | some s => return s
  | none => throw (.fault (.noSession "scope"))

/-- The shared session. The first task that asks for it creates it, and tasks that ask in the
meantime wait for that one creation. Whoever has waited looks again. -/
def get : TaskM SessionId := do
  match ← ask .shared with
  | some s => return s
  | none =>
    answered (← ask (.acquire .provider))
    ensuring create (ask (.release .provider))
    current

/-- Shares the session no longer; the next task that asks creates another one. -/
def discard : TaskM Unit := ask .forget

end Session

end RecordAudit
