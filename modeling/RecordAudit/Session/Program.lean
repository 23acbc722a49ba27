import RecordAudit.Session.Lock
import RecordAudit.Solver.Backend

/-!
# Programs of tasks

A program is what a task does up to its result: it asks for something, and goes on with the
response. Between asking and the response other tasks may run, but only where a request has to wait:
for a lock, for a check, or for the creation of a session.
-/

namespace RecordAudit

/-- Sessions are known by number, in the order of their creation. -/
abbrev SessionId := Nat

/-- Checks are known by number, in the order of their start. -/
abbrev CheckId := Nat

/-- Creations of sessions are known by number, in the order of their start. -/
abbrev CreationId := Nat

inductive LockName where
  /-- The lock around the creation of the shared session. -/
  | provider
  /-- The lock around the scopes of a session. -/
  | session (s : SessionId)
  deriving DecidableEq, Repr

inductive Request where
  /-- Waits for a lock. -/
  | acquire (l : LockName)
  | release (l : LockName)
  /-- Makes the asking task the owner of a session's scope. -/
  | claim (s : SessionId)
  /-- Leaves the session's scope without an owner. -/
  | disclaim (s : SessionId)
  /-- Whether the asking task owns the session's scope. -/
  | owns (s : SessionId)
  /-- Opens a frame of the session's backend. -/
  | push (s : SessionId)
  /-- Drops the newest frame of the session's backend. -/
  | pop (s : SessionId)
  | add (s : SessionId) (assertion : Operand)
  /-- Starts a check beside all tasks. -/
  | startCheck (s : SessionId) (timeout : Timeout)
  /-- Waits for the end of a check. -/
  | awaitCheck (c : CheckId)
  /-- The session that is shared, if there is one. -/
  | shared
  /-- Starts the creation of a session. -/
  | startCreation
  /-- Waits for the end of a creation. -/
  | awaitCreation (c : CreationId)
  /-- Makes a session the shared one. -/
  | install (s : SessionId)
  /-- Shares no session any more. -/
  | forget

/-- What is responded to a request. A task that is cancelled while it waits gets no answer. -/
abbrev Request.Response : Request → Type
  | .acquire _ => Option Unit
  | .owns _ => Bool
  | .push _ | .pop _ | .add _ _ => Except Fault Unit
  | .startCheck _ _ => CheckId
  | .awaitCheck _ => Option (Except Fault Answer)
  | .shared => Option SessionId
  | .startCreation => CreationId
  | .awaitCreation _ => Option (Except Fault SessionId)
  | .release _ | .claim _ | .disclaim _ | .install _ | .forget => Unit

inductive Program (α : Type) where
  | done (a : α)
  | ask (r : Request) (next : r.Response → Program α)

namespace Program

variable {α β γ : Type}

def bind : Program α → (α → Program β) → Program β
  | .done a, f => f a
  | .ask r next, f => .ask r fun response => (next response).bind f

instance : Monad Program where
  pure := .done
  bind := bind

@[simp] theorem pure_eq (a : α) : (pure a : Program α) = .done a := rfl

@[simp] theorem done_bind (a : α) (f : α → Program β) : (Program.done a >>= f) = f a := rfl

@[simp] theorem ask_bind (r : Request) (next : r.Response → Program α) (f : α → Program β) :
    (Program.ask r next >>= f) = .ask r fun response => next response >>= f := rfl

theorem bind_done (p : Program α) : p >>= .done = p := by
  induction p with
  | done a => rfl
  | ask r next ih => exact congrArg (Program.ask r) (funext ih)

theorem bind_bind (p : Program α) (f : α → Program β) (g : β → Program γ) :
    p >>= f >>= g = p >>= fun a => f a >>= g := by
  induction p with
  | done a => rfl
  | ask r next ih => exact congrArg (Program.ask r) (funext ih)

instance : LawfulMonad Program := .mk' _ bind_done (fun _ _ => rfl) bind_bind

end Program

/-- Why a task ends without a result. -/
inductive Interrupt where
  | fault (f : Fault)
  | cancelled

/-- What a task does that may be interrupted. -/
abbrev TaskM := ExceptT Interrupt Program

namespace TaskM

variable {α β : Type}

def ask (r : Request) : TaskM r.Response := ExceptT.mk (.ask r fun response => .done (.ok response))

def ofExcept : Except Fault α → TaskM α
  | .ok a => pure a
  | .error f => throw (.fault f)

/-- The answer to a request that waits; without one the task was cancelled. -/
def answered : Option α → TaskM α
  | some a => pure a
  | none => throw .cancelled

/-- Runs the body and then the conclusion, however the body ends. An interrupt of the conclusion
takes the place of the body's result. -/
def ensuring (body : TaskM α) (conclusion : TaskM Unit) : TaskM α :=
  ExceptT.mk do
    let result ← body.run
    match ← conclusion.run with
    | .ok () => return result
    | .error e => return .error e

/-- Runs the body; if it is interrupted, runs the amends and stays interrupted. -/
def orElse (body : TaskM α) (amends : TaskM Unit) : TaskM α :=
  ExceptT.mk do
    match ← body.run with
    | .ok a => return .ok a
    | .error e =>
      match ← amends.run with
      | .ok () => return .error e
      | .error e' => return .error e'

/-- Goes on from a fault. A cancelled task is not held up. -/
def recover (body : TaskM α) (handler : Fault → α) : TaskM α :=
  ExceptT.mk do
    match ← body.run with
    | .error (.fault f) => return .ok (handler f)
    | result => return result

end TaskM

end RecordAudit
