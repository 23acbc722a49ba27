import RecordAudit.Proofs.Session.Trace
import RecordAudit.Session.Scope

/-!
# Conduct of tasks

A logic for programs of tasks. `Stance` is what a task itself knows about its place among the
others: which lock it holds, and which calls it has made since. `Program.wp` runs a program through
its stances and asks that it keeps the rules for locks and backends, whatever is responded within
these rules. Programs that keep them do not disturb each other; that is shown for runs of tasks
elsewhere, and nothing here mentions another task.
-/

namespace RecordAudit

/-- What a task holds. -/
inductive Hold where
  | nothing
  /-- The task waits for a lock. -/
  | queued (l : LockName)
  /-- The task holds the provider's lock. -/
  | provider
  /-- The task holds the provider's lock and waits for a creation. -/
  | creating (c : CreationId)
  /-- The task holds a session's lock; whether it owns the scope, how many frames it has open, and
  the calls it has made since no frame was open. -/
  | scope (s : SessionId) (owner : Bool) (depth : Nat) (calls : List Call)
  /-- The task owns a session's scope and waits for a check, which is its latest call. -/
  | checking (s : SessionId) (depth : Nat) (calls : List Call) (timeout : Timeout) (c : CheckId)

/-- Where a task stands. -/
structure Stance where
  /-- The sessions that the task was given. -/
  known : List SessionId
  /-- The blocks of calls that the task has completed, with their sessions. -/
  made : List (SessionId × List Call)
  hold : Hold
  /-- Whether the task has seen a session shared. None is taken back as long as all tasks keep the
  rules. -/
  served : Bool

namespace Hold

def owns (s : SessionId) : Hold → Bool
  | .scope s' owner _ _ => s' == s && owner
  | .checking s' _ _ _ _ => s' == s
  | _ => false

end Hold

namespace Stance

def idle (known : List SessionId) : Stance := ⟨known, [], .nothing, false⟩

def holding (st : Stance) (h : Hold) : Stance := { st with hold := h }

def meet (st : Stance) (s : SessionId) : Stance := { st with known := s :: st.known }

def serve (st : Stance) : Stance := { st with served := true }

def left (st : Stance) (s : SessionId) (calls : List Call) : Stance :=
  { st with made := st.made ++ [(s, calls)], hold := .nothing }

/-- The stance after the newest frame was dropped; the block is complete when that was the last. -/
def popped (st : Stance) (s : SessionId) (depth : Nat) (calls : List Call) : Stance :=
  match depth with
  | 0 => { st with made := st.made ++ [(s, calls ++ [.pop])], hold := .scope s true 0 [] }
  | n + 1 => st.holding (.scope s true (n + 1) (calls ++ [.pop]))

@[simp] theorem idle_hold (known : List SessionId) : (idle known).hold = .nothing := rfl

@[simp] theorem holding_hold (st : Stance) (h : Hold) : (st.holding h).hold = h := rfl

@[simp] theorem holding_known (st : Stance) (h : Hold) : (st.holding h).known = st.known := rfl

@[simp] theorem holding_made (st : Stance) (h : Hold) : (st.holding h).made = st.made := rfl

@[simp] theorem holding_holding (st : Stance) (h h' : Hold) :
    (st.holding h).holding h' = st.holding h' := rfl

@[simp] theorem holding_self (st : Stance) : st.holding st.hold = st := rfl

@[simp] theorem meet_hold (st : Stance) (s : SessionId) : (st.meet s).hold = st.hold := rfl

@[simp] theorem serve_hold (st : Stance) : st.serve.hold = st.hold := rfl

@[simp] theorem serve_known (st : Stance) : st.serve.known = st.known := rfl

@[simp] theorem serve_served (st : Stance) : st.serve.served = true := rfl

@[simp] theorem left_hold (st : Stance) (s : SessionId) (calls : List Call) :
    (st.left s calls).hold = .nothing := rfl

@[simp] theorem left_known (st : Stance) (s : SessionId) (calls : List Call) :
    (st.left s calls).known = st.known := rfl

@[simp] theorem left_made (st : Stance) (s : SessionId) (calls : List Call) :
    (st.left s calls).made = st.made ++ [(s, calls)] := rfl

@[simp] theorem popped_known (st : Stance) (s : SessionId) (depth : Nat) (calls : List Call) :
    (st.popped s depth calls).known = st.known := by cases depth <;> rfl

end Stance

/-- The replies that a task may get to a call, given the calls it has made since no frame was
open. -/
abbrev Replies := List Call → (c : Call) → Except Fault c.Reply → Prop

/-- What a request does to the stance of a task that keeps the rules, and which responses it may
get. -/
def Request.wp (allows : Replies) :
    (r : Request) → Stance → (r.Response → Stance → Prop) → Prop
  | .acquire .provider, st, K => st.hold = .nothing ∧ K (some ()) (st.holding .provider)
  | .acquire (.session s), st, K =>
    st.hold = .nothing ∧ s ∈ st.known ∧ K (some ()) (st.holding (.scope s false 0 []))
  | .release .provider, st, K => st.hold = .provider ∧ K () (st.holding .nothing)
  | .release (.session s), st, K => st.hold = .scope s false 0 [] ∧ K () (st.holding .nothing)
  | .claim s, st, K => st.hold = .scope s false 0 [] ∧ K () (st.holding (.scope s true 0 []))
  | .disclaim s, st, K => st.hold = .scope s true 0 [] ∧ K () (st.holding (.scope s false 0 []))
  | .owns s, st, K => K (st.hold.owns s) st
  | .push s, st, K =>
    ∃ n calls, st.hold = .scope s true n calls ∧
      ∀ reply, allows calls .push reply →
        K reply (st.holding (.scope s true (n + 1) (calls ++ [.push])))
  | .pop s, st, K =>
    ∃ n calls, st.hold = .scope s true (n + 1) calls ∧
      ∀ reply, allows calls .pop reply → K reply (st.popped s n calls)
  | .add s a, st, K =>
    ∃ n calls, st.hold = .scope s true (n + 1) calls ∧
      ∀ reply, allows calls (.add a) reply →
        K reply (st.holding (.scope s true (n + 1) (calls ++ [.add a])))
  | .startCheck s timeout, st, K =>
    ∃ n calls, st.hold = .scope s true (n + 1) calls ∧
      ∀ c, K c (st.holding (.checking s (n + 1) calls timeout c))
  | .awaitCheck c, st, K =>
    ∃ s n calls timeout, st.hold = .checking s (n + 1) calls timeout c ∧
      ∀ answer, allows calls (.check timeout) answer →
        K (some answer) (st.holding (.scope s true (n + 1) (calls ++ [.check timeout])))
  | .shared, st, K => (st.served = false → K none st) ∧ ∀ s, K (some s) (st.meet s).serve
  | .startCreation, st, K => st.hold = .provider ∧ ∀ c, K c (st.holding (.creating c))
  | .awaitCreation c, st, K =>
    st.hold = .creating c ∧ ∀ s, K (some (.ok s)) ((st.meet s).holding .provider)
  | .install s, st, K => s ∈ st.known ∧ K () st.serve
  | .forget, _, _ => False

/-- What has to hold of a stance so that a program keeps the rules from there on and ends with a
result and a stance as wished. -/
def Program.wp {α : Type} (allows : Replies) : Program α → Stance → (α → Stance → Prop) → Prop
  | .done a, st, Q => Q a st
  | .ask r next, st, Q => r.wp allows st fun response st => (next response).wp allows st Q

/-- The same for what a task does, which may also end with an interrupt. -/
def TaskM.wp {α : Type} (allows : Replies) (p : TaskM α) (st : Stance)
    (Q : Except Interrupt α → Stance → Prop) : Prop := Program.wp allows p.run st Q

variable {α β : Type} {allows : Replies} {st : Stance}

theorem Request.wp_mono {r : Request} {K K' : r.Response → Stance → Prop}
    (h : ∀ response st, K response st → K' response st) (hr : r.wp allows st K) :
    r.wp allows st K' := by
  cases r with
  | acquire l => cases l <;> grind [Request.wp]
  | release l => cases l <;> grind [Request.wp]
  | push s | pop s | add s a | startCheck s τ =>
    obtain ⟨n, calls, hold, hK⟩ := hr
    first
      | exact ⟨n, calls, hold, fun reply hreply => h _ _ (hK reply hreply)⟩
      | exact ⟨n, calls, hold, fun c => h _ _ (hK c)⟩
  | awaitCheck c =>
    obtain ⟨s, n, calls, τ, hold, hK⟩ := hr
    exact ⟨s, n, calls, τ, hold, fun answer ha => h _ _ (hK answer ha)⟩
  | claim s | disclaim s | install s => exact ⟨hr.1, h _ _ hr.2⟩
  | owns s => exact h _ _ hr
  | forget => exact hr.elim
  | shared => exact ⟨fun unserved => h _ _ (hr.1 unserved), fun s => h _ _ (hr.2 s)⟩
  | startCreation | awaitCreation c => exact ⟨hr.1, fun x => h _ _ (hr.2 x)⟩

namespace Program

@[simp] theorem wp_done (a : α) (Q : α → Stance → Prop) :
    (Program.done a).wp allows st Q ↔ Q a st := Iff.rfl

@[simp] theorem wp_ask (r : Request) (next : r.Response → Program α) (Q : α → Stance → Prop) :
    (Program.ask r next).wp allows st Q ↔
      r.wp allows st fun response st => (next response).wp allows st Q := Iff.rfl

theorem wp_mono {p : Program α} {Q Q' : α → Stance → Prop} (h : ∀ a st, Q a st → Q' a st)
    (hp : p.wp allows st Q) : p.wp allows st Q' := by
  induction p generalizing st with
  | done a => exact h a st hp
  | ask r next ih => exact Request.wp_mono (fun response st => ih response) hp

theorem wp_bind (p : Program α) (f : α → Program β) (Q : β → Stance → Prop) :
    (p >>= f).wp allows st Q ↔ p.wp allows st fun a st => (f a).wp allows st Q := by
  induction p generalizing st with
  | done a => rfl
  | ask r next ih =>
    rw [ask_bind, wp_ask, wp_ask]
    exact ⟨Request.wp_mono fun response st => (ih response).1,
      Request.wp_mono fun response st => (ih response).2⟩

end Program

namespace TaskM

variable {Q : Except Interrupt α → Stance → Prop}

theorem wp_mono {p : TaskM α} {Q' : Except Interrupt α → Stance → Prop}
    (h : ∀ result st, Q result st → Q' result st) (hp : p.wp allows st Q) : p.wp allows st Q' :=
  Program.wp_mono h hp

@[simp] theorem wp_pure (a : α) : (pure a : TaskM α).wp allows st Q ↔ Q (.ok a) st := Iff.rfl

@[simp] theorem wp_throw (e : Interrupt) :
    (throw e : TaskM α).wp allows st Q ↔ Q (.error e) st := Iff.rfl

@[simp] theorem wp_ask (r : Request) (Q : Except Interrupt r.Response → Stance → Prop) :
    (ask r).wp allows st Q ↔ r.wp allows st fun response st => Q (.ok response) st := Iff.rfl

@[simp] theorem mapError_ok (f : Fault → Interrupt) (a : α) : Except.mapError f (.ok a) = .ok a :=
  rfl

@[simp] theorem mapError_error (f : Fault → Interrupt) (fault : Fault) :
    (Except.mapError f (.error fault) : Except Interrupt α) = .error (f fault) := rfl

@[simp] theorem wp_ofExcept (x : Except Fault α) :
    (ofExcept x).wp allows st Q ↔ Q (x.mapError .fault) st := by cases x <;> rfl

@[simp] theorem wp_answered_some (a : α) : (answered (some a)).wp allows st Q ↔ Q (.ok a) st :=
  Iff.rfl

def andThen (allows : Replies) (f : α → TaskM β) (Q : Except Interrupt β → Stance → Prop) :
    Except Interrupt α → Stance → Prop
  | .ok a, st => (f a).wp allows st Q
  | .error e, st => Q (.error e) st

@[simp] theorem andThen_ok (f : α → TaskM β) (Q : Except Interrupt β → Stance → Prop) (a : α) :
    andThen allows f Q (.ok a) st ↔ (f a).wp allows st Q := Iff.rfl

@[simp] theorem andThen_error (f : α → TaskM β) (Q : Except Interrupt β → Stance → Prop)
    (e : Interrupt) : andThen allows f Q (.error e) st ↔ Q (.error e) st := Iff.rfl

@[simp] theorem wp_bind (p : TaskM α) (f : α → TaskM β) (Q : Except Interrupt β → Stance → Prop) :
    (p >>= f).wp allows st Q ↔ p.wp allows st (andThen allows f Q) := by
  unfold wp
  rw [ExceptT.run_bind, Program.wp_bind]
  exact ⟨Program.wp_mono fun r st h => by cases r <;> exact h,
    Program.wp_mono fun r st h => by cases r <;> exact h⟩

theorem wp_ask_bind (r : Request) (f : r.Response → TaskM β)
    (Q : Except Interrupt β → Stance → Prop) :
    (ask r >>= f).wp allows st Q ↔
      r.wp allows st fun response st => (f response).wp allows st Q := by
  rw [wp_bind, wp_ask]
  rfl

/-- A conclusion runs however the body ends, and an interrupt of the conclusion counts. -/
theorem wp_ensuring (body : TaskM α) (conclusion : TaskM Unit) :
    (ensuring body conclusion).wp allows st Q ↔
      body.wp allows st fun result st => conclusion.wp allows st fun after st =>
        Q (after.bind fun _ => result) st := by
  unfold wp ensuring
  rw [ExceptT.run_mk, Program.wp_bind]
  refine ⟨Program.wp_mono fun result st h => ?_, Program.wp_mono fun result st h => ?_⟩
  all_goals
    rw [Program.wp_bind] at *
    exact Program.wp_mono (fun after st h => by cases after <;> exact h) h

theorem wp_orElse (body : TaskM α) (amends : TaskM Unit) :
    (orElse body amends).wp allows st Q ↔
      body.wp allows st fun result st => match result with
        | .ok a => Q (.ok a) st
        | .error e => amends.wp allows st fun after st => Q (after.bind fun _ => .error e) st := by
  unfold wp orElse
  rw [ExceptT.run_mk, Program.wp_bind]
  refine ⟨Program.wp_mono fun result st h => ?_, Program.wp_mono fun result st h => ?_⟩
  all_goals
    cases result with
    | ok a => exact h
    | error e =>
      rw [Program.wp_bind] at *
      exact Program.wp_mono (fun after st h => by cases after <;> exact h) h

theorem wp_recover (body : TaskM α) (handler : Fault → α) :
    (recover body handler).wp allows st Q ↔
      body.wp allows st fun result st => match result with
        | .error (.fault f) => Q (.ok (handler f)) st
        | result => Q result st := by
  unfold wp recover
  rw [ExceptT.run_mk, Program.wp_bind]
  refine ⟨Program.wp_mono fun result st h => ?_, Program.wp_mono fun result st h => ?_⟩
  all_goals rcases result with (_ | _) | _ <;> exact h

theorem wp_tryCatch (body : TaskM α) (handler : Interrupt → TaskM α) :
    (tryCatch body handler).wp allows st Q ↔
      body.wp allows st fun result st => match result with
        | .ok a => Q (.ok a) st
        | .error e => (handler e).wp allows st Q := by
  unfold wp
  rw [ExceptT.run_tryCatch, Program.wp_bind]
  refine ⟨Program.wp_mono fun result st h => ?_, Program.wp_mono fun result st h => ?_⟩
  all_goals cases result <;> exact h

end TaskM

end RecordAudit
