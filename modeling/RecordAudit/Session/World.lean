import RecordAudit.Session.Program

/-!
# What tasks share

The sessions with their backends, the provider of the shared session, and the checks and creations
that run beside the tasks, with the history of all calls to backends.
-/

namespace RecordAudit

variable {σ : Type}

structure SessionState (σ : Type) where
  backend : σ
  /-- The number of checks started. -/
  checks : Nat
  lock : Lock
  /-- The task that owns the scope. -/
  owner : Option TaskId

/-- A check that was started. Its answer shows only when it has ended. -/
structure RunningCheck where
  session : SessionId
  answer : Except Fault Answer
  ended : Bool

/-- What happened to backends. -/
inductive Occurrence where
  /-- A task made a call to the backend of a session. -/
  | called (t : TaskId) (s : SessionId) (c : Call)
  /-- A check has ended. -/
  | ended (c : CheckId)

structure World (σ : Type) where
  /-- The event loop that tasks run on. -/
  loop : Nat
  sessions : List (SessionState σ)
  /-- The shared session. -/
  shared : Option SessionId
  /-- The lock around the creation of the shared session. -/
  providerLock : Lock
  /-- How often a created session became the shared one. -/
  created : Nat
  checks : List RunningCheck
  /-- The creations that were started, with their outcomes where they have one. -/
  creations : List (Option (Except Fault SessionId))
  /-- What happened to backends, newest first. -/
  history : List Occurrence

/-- What sessions are made of: the responses of backends, and the backends that creations give. A
creation with no outcome here ends later. -/
structure Machine (σ : Type) where
  backend : Backend σ
  create : CreationId → Option (Except Fault σ)

namespace World

def empty : World σ := ⟨0, [], none, .free 0, 0, [], [], []⟩

/-- The world as the next event loop finds it. -/
def nextLoop (w : World σ) : World σ := { w with loop := w.loop + 1 }

def updateSession (w : World σ) (s : SessionId) (f : SessionState σ → SessionState σ) : World σ :=
  { w with sessions := w.sessions.modify s f }

/-- A lock as it is on the event loop; sessions that do not exist have a free one. -/
def lock (w : World σ) : LockName → Lock
  | .provider => w.providerLock.on w.loop
  | .session s => ((w.sessions[s]?.map SessionState.lock).getD (Lock.free w.loop)).on w.loop

def setLock (w : World σ) : LockName → Lock → World σ
  | .provider, l => { w with providerLock := l }
  | .session s, l => w.updateSession s fun session => { session with lock := l }

def owner? (w : World σ) (s : SessionId) : Option TaskId := w.sessions[s]?.bind (·.owner)

def setOwner (w : World σ) (s : SessionId) (owner : Option TaskId) : World σ :=
  w.updateSession s fun session => { session with owner := owner }

/-- The state of a session's backend. -/
def backend? (w : World σ) (s : SessionId) : Option σ := w.sessions[s]?.map (·.backend)

/-- Makes a call to the backend of a session. -/
def call (b : Backend σ) (t : TaskId) (s : SessionId) (c : Call) (w : World σ) :
    Except Fault c.Reply × World σ :=
  match w.backend? s with
  | none => (.error .outsideScope, w)
  | some state =>
    let (reply, state) := b.respond c state
    let w := w.updateSession s fun session => { session with backend := state }
    (reply, { w with history := .called t s c :: w.history })

/-- Puts a new session on a backend in the world. -/
def addSession (w : World σ) (state : σ) : SessionId × World σ :=
  (w.sessions.length, { w with sessions := w.sessions ++ [⟨state, 0, .free w.loop, none⟩] })

/-- Ends a creation with its outcome, unless it has ended before. -/
def deliver (w : World σ) (c : CreationId) (outcome : Except Fault σ) : World σ :=
  match w.creations[c]? with
  | some none =>
    match outcome with
    | .ok state =>
      let (s, w) := w.addSession state
      { w with creations := w.creations.set c (some (.ok s)) }
    | .error f => { w with creations := w.creations.set c (some (.error f)) }
  | _ => w

/-- Ends a check. -/
def endCheck (w : World σ) (c : CheckId) : World σ :=
  match w.checks[c]? with
  | some check =>
    if check.ended then w
    else { w with
      checks := w.checks.set c { check with ended := true }
      history := .ended c :: w.history }
  | none => w

@[elab_as_elim]
theorem deliver_cases {motive : World σ → Prop} (w : World σ) (c : CreationId)
    (outcome : Except Fault σ) (closed : w.creations[c]? ≠ some none → motive w)
    (failed : ∀ f, w.creations[c]? = some none → outcome = .error f →
      motive { w with creations := w.creations.set c (some (.error f)) })
    (born : ∀ state, w.creations[c]? = some none → outcome = .ok state →
      motive { w with
        sessions := w.sessions ++ [⟨state, 0, .free w.loop, none⟩]
        creations := w.creations.set c (some (.ok w.sessions.length)) }) :
    motive (w.deliver c outcome) := by
  unfold deliver
  split
  · next opened =>
    cases outcome with
    | ok state => exact born state opened rfl
    | error f => exact failed f opened rfl
  · next opened => exact closed opened

@[elab_as_elim]
theorem endCheck_cases {motive : World σ → Prop} (w : World σ) (c : CheckId)
    (still : w.checks[c]?.map (·.ended) ≠ some false → motive w)
    (ended : ∀ check, w.checks[c]? = some check → check.ended = false →
      motive { w with
        checks := w.checks.set c { check with ended := true }
        history := .ended c :: w.history }) :
    motive (w.endCheck c) := by
  unfold endCheck
  split
  · next check there =>
    split
    · next settled => exact still (by simp [there, settled])
    · next running => exact ended check there (eq_false_of_ne_true running)
  · next absent => exact still (by simp [absent])

/-- Starts a check of a session. -/
def startCheck (b : Backend σ) (t : TaskId) (s : SessionId) (timeout : Timeout) (w : World σ) :
    CheckId × World σ :=
  let w := w.updateSession s fun session => { session with checks := session.checks + 1 }
  let (answer, w) := w.call b t s (.check timeout)
  (w.checks.length, { w with checks := w.checks ++ [⟨s, answer, false⟩] })

/-- Starts a creation, which may have its outcome at once. -/
def startCreation (m : Machine σ) (w : World σ) : CreationId × World σ :=
  let c := w.creations.length
  let w := { w with creations := w.creations ++ [none] }
  match m.create c with
  | some outcome => (c, w.deliver c outcome)
  | none => (c, w)

/-- The response to a request that a task waits with, if it need not wait any longer. -/
def response? (w : World σ) (t : TaskId) : (r : Request) → Option r.Response
  | .acquire l => if (w.lock l).holder = some t then some (some ()) else none
  | .awaitCheck c =>
    match w.checks[c]? with
    | some check => if check.ended then some (some check.answer) else none
    | none => none
  | .awaitCreation c =>
    match w.creations[c]? with
    | some (some outcome) => some (some outcome)
    | _ => none
  | _ => none

/-- What a task does to the world with a request, and the response unless it has to wait. -/
def request (m : Machine σ) (t : TaskId) : (r : Request) → World σ → Option r.Response × World σ
  | .acquire l, w =>
    let w := w.setLock l ((w.lock l).acquire t)
    (w.response? t (.acquire l), w)
  | .release l, w => (some (), w.setLock l (w.lock l).release)
  | .claim s, w => (some (), w.setOwner s (some t))
  | .disclaim s, w => (some (), w.setOwner s none)
  | .owns s, w => (some (w.owner? s == some t), w)
  | .push s, w =>
    let (reply, w) := w.call m.backend t s .push
    (some reply, w)
  | .pop s, w =>
    let (reply, w) := w.call m.backend t s .pop
    (some reply, w)
  | .add s assertion, w =>
    let (reply, w) := w.call m.backend t s (.add assertion)
    (some reply, w)
  | .startCheck s timeout, w =>
    let (c, w) := w.startCheck m.backend t s timeout
    (some c, w)
  | .awaitCheck c, w => (w.response? t (.awaitCheck c), w)
  | .shared, w => (some w.shared, w)
  | .startCreation, w =>
    let (c, w) := w.startCreation m
    (some c, w)
  | .awaitCreation c, w => (w.response? t (.awaitCreation c), w)
  | .install s, w => (some (), { w with shared := some s, created := w.created + 1 })
  | .forget, w => (some (), { w with shared := none })

/-- The response to a task that is cancelled while it waits. -/
def cancelled? (w : World σ) (t : TaskId) : (r : Request) → Option (r.Response × World σ)
  | .acquire l => some (none, w.setLock l ((w.lock l).abandon t))
  | .awaitCheck _ => some (none, w)
  | .awaitCreation _ => some (none, w)
  | _ => none

/-- The creations that have no outcome yet. -/
def openCreations (w : World σ) : List CreationId :=
  (List.range w.creations.length).filter fun c => w.creations[c]? matches some none

/-- The checks that have not ended. -/
def openChecks (w : World σ) : List CheckId :=
  (List.range w.checks.length).filter fun c => (w.checks[c]?.map (·.ended)) == some false

end World

end RecordAudit
