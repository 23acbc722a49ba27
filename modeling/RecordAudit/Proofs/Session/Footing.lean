import RecordAudit.Proofs.Session.ScopeTask

/-!
# The permission to use a session

Tasks that use a session whose frames may fail to open and to close. `Footing` is what a task knows
about its own permission to use the session, and `Program.Abides` runs a program through its
footings, whatever is responded. Tasks that enter scopes one after the other abide by the rules,
whatever else they do and wherever a call fails; between their scopes they are outside.
-/

namespace RecordAudit

open TaskM

/-- Where a task stands towards a session. -/
inductive Footing where
  /-- The task is outside every scope; whether it has just seen that it owns the scope all the
  same. -/
  | outside (owns : Bool)
  /-- The task waits for the session's lock. -/
  | queued
  /-- The task has the lock, and is not the owner yet. -/
  | granted
  /-- The task has the lock and owns the scope; whether it has just seen a push or a pop fail. -/
  | inside (failed : Bool)
  /-- The task has the lock, and owns the scope no longer. -/
  | withdrawn
  deriving DecidableEq

namespace Footing

def holds : Footing → Bool
  | .granted | .inside _ | .withdrawn => true
  | _ => false

def awaits : Footing → Bool
  | .queued => true
  | _ => false

def owns : Footing → Bool
  | .outside owns => owns
  | .inside _ => true
  | _ => false

/-- Whether the task is inside a scope, unless it is on its way in or out. -/
def inside? : Footing → Option Bool
  | .outside _ => some false
  | .inside _ => some true
  | _ => none

def rested : Footing → Footing
  | .outside _ => .outside false
  | .inside _ => .inside false
  | ft => ft

def told : Footing → Bool → Footing
  | .outside _, owns => .outside owns
  | ft, _ => ft

def replied : Footing → Except Fault Unit → Footing
  | .inside _, .error _ => .inside true
  | ft, _ => ft.rested

@[simp] theorem inside?_rested (ft : Footing) :
    ft.rested.inside? = ft.inside? := by cases ft <;> rfl

@[simp] theorem inside?_told (ft : Footing) (b : Bool) :
    (ft.told b).inside? = ft.inside? := by cases ft <;> rfl

@[simp] theorem inside?_replied (ft : Footing) (reply : Except Fault Unit) :
    (ft.replied reply).inside? = ft.inside? := by
  cases ft <;> cases reply <;> rfl

@[simp] theorem holds_rested (ft : Footing) : ft.rested.holds = ft.holds := by cases ft <;> rfl

@[simp] theorem awaits_rested (ft : Footing) : ft.rested.awaits = ft.awaits := by cases ft <;> rfl

@[simp] theorem holds_told (ft : Footing) (b : Bool) :
    (ft.told b).holds = ft.holds := by cases ft <;> rfl

@[simp] theorem awaits_told (ft : Footing) (b : Bool) :
    (ft.told b).awaits = ft.awaits := by cases ft <;> rfl

@[simp] theorem holds_replied (ft : Footing) (reply : Except Fault Unit) :
    (ft.replied reply).holds = ft.holds := by
  cases ft <;> cases reply <;> rfl

@[simp] theorem awaits_replied (ft : Footing) (reply : Except Fault Unit) :
    (ft.replied reply).awaits = ft.awaits := by
  cases ft <;> cases reply <;> rfl

@[simp] theorem rested_rested (ft : Footing) : ft.rested.rested = ft.rested := by cases ft <;> rfl

/-- Who has been told that it owns the scope, is known to be the owner, unless it is on its way in
or out. -/
theorem owns_told {ft : Footing} {b : Bool} (h : ft.inside? = some b) :
    (ft.told true).owns = true := by
  cases ft <;> first | rfl | cases h

end Footing

/-- Whether a request has nothing to do with a session. -/
def Request.Avoids (s : SessionId) : Request → Prop
  | .acquire l | .release l => l ≠ .session s
  | .claim s' | .disclaim s' | .owns s' | .push s' | .pop s' | .add s' _ | .startCheck s' _ =>
    s' ≠ s
  | _ => True

/-- What a request does to the footing of a task, for every response that it may get. Frames are
opened by a task that is known to be the owner, and the lock is given back by one that has given up
the scope or has just seen a push or a pop fail in it. Only a request that has nothing to do with
the session, or one for its lock, may have to wait. -/
inductive Request.Follows (s : SessionId) :
    (r : Request) → Footing → (r.Response → Footing → Prop) → Prop where
  | elsewhere {r ft K} : r.Avoids s → (∀ response, K response ft.rested) → Follows s r ft K
  | acquire {owns K} : K (some ()) .granted → K none (.outside false) →
    Follows s (.acquire (.session s)) (.outside owns) K
  | claim {K} : K () (.inside false) → Follows s (.claim s) .granted K
  | disclaim {failed K} : K () .withdrawn → Follows s (.disclaim s) (.inside failed) K
  | release {ft K} : ft = .inside true ∨ ft = .withdrawn → K () (.outside false) →
    Follows s (.release (.session s)) ft K
  | owns {ft K} : (∀ owns, K owns (ft.told owns)) → Follows s (.owns s) ft K
  | push {ft K} : ft.owns = true → (∀ reply, K reply (ft.replied reply)) → Follows s (.push s) ft K
  | pop {ft K} : (∀ reply, K reply (ft.replied reply)) → Follows s (.pop s) ft K
  | add {a ft K} : (∀ reply, K reply ft.rested) → Follows s (.add s a) ft K
  | startCheck {τ ft K} : (∀ c, K c ft.rested) → Follows s (.startCheck s τ) ft K

/-- The program abides by the rules from a footing on, whatever is responded, and ends with a result
and a footing as wished. -/
def Program.Abides {α : Type} (s : SessionId) : Program α → Footing → (α → Footing → Prop) → Prop
  | .done a, ft, Q => Q a ft
  | .ask r next, ft, Q => r.Follows s ft fun response ft => (next response).Abides s ft Q

/-- The same for what a task does, which may also end with an interrupt. -/
def TaskM.Abides {α : Type} (s : SessionId) (p : TaskM α) (ft : Footing)
    (Q : Except Interrupt α → Footing → Prop) : Prop := Program.Abides s p.run ft Q

def Program.Avoids {α : Type} (s : SessionId) : Program α → Prop
  | .done _ => True
  | .ask r next => r.Avoids s ∧ ∀ response, (next response).Avoids s

variable {α β : Type} {s : SessionId} {ft : Footing}

/-! ## Programs -/

theorem Request.Follows.mono {r : Request} {K K' : r.Response → Footing → Prop}
    (hr : r.Follows s ft K) (h : ∀ response ft, K response ft → K' response ft) :
    r.Follows s ft K' := by
  cases hr with
  | elsewhere avoids hK => exact .elsewhere avoids fun response => h _ _ (hK response)
  | acquire granted cancelled => exact .acquire (h _ _ granted) (h _ _ cancelled)
  | claim hK => exact .claim (h _ _ hK)
  | disclaim hK => exact .disclaim (h _ _ hK)
  | release may hK => exact .release may (h _ _ hK)
  | owns hK => exact .owns fun b => h _ _ (hK b)
  | push may hK => exact .push may fun reply => h _ _ (hK reply)
  | pop hK => exact .pop fun reply => h _ _ (hK reply)
  | add hK => exact .add fun reply => h _ _ (hK reply)
  | startCheck hK => exact .startCheck fun c => h _ _ (hK c)

theorem Request.exists_response (r : Request) : Nonempty r.Response := by
  cases r with
  | acquire | shared | awaitCheck | awaitCreation => exact ⟨none⟩
  | owns => exact ⟨false⟩
  | push | pop | add => exact ⟨.ok ()⟩
  | startCheck | startCreation => exact ⟨(0 : Nat)⟩
  | release | claim | disclaim | install | forget => exact ⟨()⟩

theorem Request.Follows.of_avoids {r : Request} {K : r.Response → Footing → Prop}
    (hr : r.Follows s ft K) (avoids : r.Avoids s) : ∀ response, K response ft.rested := by
  cases hr with
  | elsewhere _ hK => exact hK
  | acquire | claim | disclaim | release | owns | push | pop | add | startCheck =>
    exact absurd rfl avoids

namespace Program

theorem Abides.mono {p : Program α} {Q Q' : α → Footing → Prop} (hp : p.Abides s ft Q)
    (h : ∀ a ft, Q a ft → Q' a ft) : p.Abides s ft Q' := by
  induction p generalizing ft with
  | done a => exact h a ft hp
  | ask r next ih => exact Request.Follows.mono hp fun response ft => ih response

theorem abides_bind (p : Program α) (f : α → Program β) (Q : β → Footing → Prop) :
    (p >>= f).Abides s ft Q ↔ p.Abides s ft fun a ft => (f a).Abides s ft Q := by
  induction p generalizing ft with
  | done a => rfl
  | ask r next ih =>
    exact ⟨fun h => Request.Follows.mono h fun response ft => (ih response).1,
      fun h => Request.Follows.mono h fun response ft => (ih response).2⟩

end Program

namespace TaskM

variable {Q : Except Interrupt α → Footing → Prop}

theorem Abides.mono {p : TaskM α} {Q' : Except Interrupt α → Footing → Prop} (hp : p.Abides s ft Q)
    (h : ∀ result ft, Q result ft → Q' result ft) : p.Abides s ft Q' :=
  Program.Abides.mono hp h

theorem abides_ofExcept (x : Except Fault α) :
    (ofExcept x).Abides s ft Q ↔ Q (x.mapError .fault) ft := by cases x <;> rfl

theorem abides_bind (p : TaskM α) (f : α → TaskM β) (Q : Except Interrupt β → Footing → Prop) :
    (p >>= f).Abides s ft Q ↔ p.Abides s ft fun result ft => match result with
      | .ok a => (f a).Abides s ft Q
      | .error e => Q (.error e) ft := by
  unfold Abides
  rw [ExceptT.run_bind, Program.abides_bind]
  refine ⟨fun h => h.mono fun result ft h => ?_, fun h => h.mono fun result ft h => ?_⟩
  all_goals cases result <;> exact h

theorem abides_ensuring (body : TaskM α) (conclusion : TaskM Unit) :
    (ensuring body conclusion).Abides s ft Q ↔
      body.Abides s ft fun result ft => conclusion.Abides s ft fun after ft =>
        Q (after.bind fun _ => result) ft := by
  unfold Abides ensuring
  rw [ExceptT.run_mk, Program.abides_bind]
  refine ⟨fun h => h.mono fun result ft h => ?_, fun h => h.mono fun result ft h => ?_⟩
  all_goals
    rw [Program.abides_bind] at *
    exact h.mono fun after ft h => by cases after <;> exact h

theorem abides_orElse (body : TaskM α) (amends : TaskM Unit) :
    (orElse body amends).Abides s ft Q ↔
      body.Abides s ft fun result ft => match result with
        | .ok a => Q (.ok a) ft
        | .error e => amends.Abides s ft fun after ft => Q (after.bind fun _ => .error e) ft := by
  unfold Abides orElse
  rw [ExceptT.run_mk, Program.abides_bind]
  refine ⟨fun h => h.mono fun result ft h => ?_, fun h => h.mono fun result ft h => ?_⟩
  all_goals
    cases result with
    | ok a => exact h
    | error e =>
      rw [Program.abides_bind] at *
      exact h.mono fun after ft h => by cases after <;> exact h

theorem abides_tryCatch (body : TaskM α) (handler : Interrupt → TaskM α) :
    (tryCatch body handler).Abides s ft Q ↔
      body.Abides s ft fun result ft => match result with
        | .ok a => Q (.ok a) ft
        | .error e => (handler e).Abides s ft Q := by
  unfold Abides
  rw [ExceptT.run_tryCatch, Program.abides_bind]
  refine ⟨fun h => h.mono fun result ft h => ?_, fun h => h.mono fun result ft h => ?_⟩
  all_goals cases result <;> exact h

theorem abides_attempt (body : TaskM α)
    (Q : Except Interrupt (Except Interrupt α) → Footing → Prop) :
    (attempt body).Abides s ft Q ↔ body.Abides s ft fun ended ft => Q (.ok ended) ft := by
  unfold attempt
  rw [abides_tryCatch, abides_bind]
  refine ⟨fun h => h.mono fun ended ft h => ?_, fun h => h.mono fun ended ft h => ?_⟩
  all_goals cases ended <;> exact h

end TaskM

/-! ## Operations -/

namespace Session

theorem abides_push {Q : Except Interrupt Unit → Footing → Prop} (owns : ft.owns = true)
    (h : ∀ reply : Except Fault Unit, Q (reply.mapError .fault) (ft.replied reply)) :
    (push s).Abides s ft Q :=
  .push owns fun reply => (abides_ofExcept reply).2 (h reply)

theorem abides_pop {Q : Except Interrupt Unit → Footing → Prop}
    (h : ∀ reply : Except Fault Unit, Q (reply.mapError .fault) (ft.replied reply)) :
    (pop s).Abides s ft Q :=
  .pop fun reply => (abides_ofExcept reply).2 (h reply)

theorem abides_requireScope {p : Unit → TaskM α} {Q : Except Interrupt α → Footing → Prop}
    (refused : Q (.error (.fault .outsideScope)) (ft.told false))
    (h : (p ()).Abides s (ft.told true) Q) : (requireScope s >>= p).Abides s ft Q :=
  .owns fun
    | true => h
    | false => refused

/-- Whatever fails on the way in, the lock is given back. -/
theorem abides_enter {o : Bool} {Q : Except Interrupt Unit → Footing → Prop}
    (failed : ∀ e, Q (.error e) (.outside false)) (entered : Q (.ok ()) (.inside false)) :
    (enter s).Abides s (.outside o) Q := by
  have granted : (orElse (do ask (.claim s); push s) (ask (.release (.session s)))).Abides s
      .granted Q := by
    rw [abides_orElse]
    refine .claim (abides_push rfl fun reply => ?_)
    cases reply with
    | ok _ => exact entered
    | error f => exact .release (.inl rfl) (failed _)
  exact .acquire granted (failed _)

/-- Whatever fails on the way out, the lock is given back. -/
theorem abides_leave {f : Bool} {Q : Except Interrupt Unit → Footing → Prop}
    (h : ∀ result, Q result (.outside false)) : (leave s).Abides s (.inside f) Q := by
  unfold leave
  rw [abides_ensuring, abides_bind]
  refine abides_pop fun reply => ?_
  cases reply with
  | ok _ => exact .disclaim (.release (.inr rfl) (h _))
  | error f => exact .release (.inl rfl) (h _)

end Session

/-! ## Tasks -/

/-- What a task may do with a session between entering scopes and leaving them: additions, checks
and frames, which may be closed after their scope was left, and whatever has nothing to do with the
session, in any order and depending on all that the task has seen. -/
inductive SessionUse (s : SessionId) : {α : Type} → TaskM α → Prop where
  | elsewhere {α : Type} {p : TaskM α} : Program.Avoids s p.run → SessionUse s p
  | add (a : Operand) : SessionUse s (Session.add s a)
  | check (timeout : Timeout) : SessionUse s (Session.check s timeout)
  | openFrame : SessionUse s (Session.openFrame s)
  | closeFrame : SessionUse s (Session.pop s)
  | bind {α β : Type} {body : TaskM α} {next : α → TaskM β} :
    SessionUse s body → (∀ a, SessionUse s (next a)) → SessionUse s (body >>= next)
  | tryCatch {α : Type} {body : TaskM α} {handler : Interrupt → TaskM α} :
    SessionUse s body → (∀ e, SessionUse s (handler e)) → SessionUse s (tryCatch body handler)
  | ensuring {α : Type} {body : TaskM α} {conclusion : TaskM Unit} :
    SessionUse s body → SessionUse s conclusion → SessionUse s (ensuring body conclusion)

theorem SessionUse.pure (a : α) : SessionUse s (Pure.pure a : TaskM α) := .elsewhere trivial

theorem SessionUse.frame {body : TaskM α} (h : SessionUse s body) :
    SessionUse s (Session.frame s body) :=
  .bind .openFrame fun _ => .ensuring h .closeFrame

theorem Program.Avoids.abides {p : Program α} (h : p.Avoids s) :
    p.Abides s ft fun _ ft' => ft'.inside? = ft.inside? := by
  induction p generalizing ft with
  | done a => rfl
  | ask r next ih =>
    exact .elsewhere h.1 fun response => (ih response (h.2 response)).mono fun a ft' same =>
      same.trans ft.inside?_rested

/-- What a task does between entering and leaving keeps it inside or outside. -/
theorem SessionUse.abides {body : TaskM α} (h : SessionUse s body) {b : Bool}
    (here : ft.inside? = some b) :
    body.Abides s ft fun _ ft' => ft'.inside? = some b := by
  induction h generalizing ft with
  | elsewhere avoids => exact avoids.abides.mono fun _ ft' same => same.trans here
  | add a =>
    refine Session.abides_requireScope (by simpa) (.add fun reply => ?_)
    exact (abides_ofExcept reply).2 (by simpa)
  | check τ =>
    refine Session.abides_requireScope (by simpa) (.startCheck fun c => .elsewhere trivial fun
      | some answer => (abides_ofExcept answer).2 (by simpa)
      | none => .elsewhere trivial fun _ => by
        change (ft.told true).rested.rested.rested.inside? = some b
        simpa)
  | openFrame =>
    refine Session.abides_requireScope (by simpa)
      (Session.abides_push (Footing.owns_told here) fun reply => ?_)
    simpa
  | closeFrame => exact Session.abides_pop fun reply => by simpa
  | bind _ _ ih ihNext =>
    rw [abides_bind]
    refine (ih here).mono fun result ft' here' => ?_
    cases result with
    | ok a => exact ihNext a here'
    | error e => exact here'
  | tryCatch _ _ ih ihHandler =>
    rw [abides_tryCatch]
    refine (ih here).mono fun result ft' here' => ?_
    cases result with
    | ok a => exact here'
    | error e => exact ihHandler e here'
  | ensuring _ _ ih ihConclusion =>
    rw [abides_ensuring]
    exact (ih here).mono fun result ft' here' => ihConclusion here'

/-- Some responses lead a program that has nothing to do with the session to its end. -/
theorem Program.Avoids.exists_end {p : Program α} (h : p.Avoids s) {Q : α → Footing → Prop}
    (abides : p.Abides s ft Q) : ∃ a ft', ft'.inside? = ft.inside? ∧ Q a ft' := by
  induction p generalizing ft with
  | done a => exact ⟨a, ft, rfl, abides⟩
  | ask r next ih =>
    obtain ⟨response⟩ := r.exists_response
    obtain ⟨a, ft', same, hQ⟩ :=
      ih response (h.2 response) (Request.Follows.of_avoids abides h.1 response)
    exact ⟨a, ft', same.trans ft.inside?_rested, hQ⟩

theorem Session.exists_refused {p : Unit → TaskM α} {Q : Except Interrupt α → Footing → Prop}
    (abides : (requireScope s >>= p).Abides s ft Q) :
    ∃ result ft', ft'.inside? = ft.inside? ∧ Q result ft' := by
  cases abides with
  | elsewhere avoids => exact absurd rfl avoids
  | owns hK => exact ⟨_, _, ft.inside?_told false, hK false⟩

/-- Some responses lead what a task does between entering and leaving to its end, where it is inside
or outside as before. -/
theorem SessionUse.exists_end {body : TaskM α} (h : SessionUse s body)
    {Q : Except Interrupt α → Footing → Prop} (abides : body.Abides s ft Q) :
    ∃ result ft', ft'.inside? = ft.inside? ∧ Q result ft' := by
  induction h generalizing ft with
  | elsewhere avoids => exact avoids.exists_end abides
  | add a | check τ | openFrame => exact Session.exists_refused abides
  | closeFrame =>
    cases abides with
    | elsewhere avoids => exact absurd rfl avoids
    | pop hK => exact ⟨_, _, ft.inside?_replied (.ok ()), hK (.ok ())⟩
  | bind _ _ ih ihNext =>
    obtain ⟨result, ft', same, rest⟩ := ih ((abides_bind _ _ _).1 abides)
    cases result with
    | ok a =>
      obtain ⟨result, ft'', same', hQ⟩ := ihNext a rest
      exact ⟨result, ft'', same'.trans same, hQ⟩
    | error e => exact ⟨_, ft', same, rest⟩
  | tryCatch _ _ ih ihHandler =>
    obtain ⟨result, ft', same, rest⟩ := ih ((abides_tryCatch _ _).1 abides)
    cases result with
    | ok a => exact ⟨_, ft', same, rest⟩
    | error e =>
      obtain ⟨result, ft'', same', hQ⟩ := ihHandler e rest
      exact ⟨result, ft'', same'.trans same, hQ⟩
  | ensuring _ _ ih ihConclusion =>
    obtain ⟨result, ft', same, rest⟩ := ih ((abides_ensuring _ _).1 abides)
    obtain ⟨after, ft'', same', hQ⟩ := ihConclusion rest
    exact ⟨_, ft'', same'.trans same, hQ⟩

/-- A task that enters scopes of a session one after the other. What it does next depends on how the
last scope ended, also where that was on the way in. -/
inductive SessionTask (s : SessionId) : Type 1 where
  | done
  | visit {α : Type} (body : TaskM α) (isUse : SessionUse s body)
      (next : Except Interrupt α → SessionTask s)
  /-- What the task does outside every scope. -/
  | stray {α : Type} (body : TaskM α) (isUse : SessionUse s body)
      (next : Except Interrupt α → SessionTask s)

def SessionTask.run : SessionTask s → TaskM Unit
  | done => return ()
  | visit body _ next => do
    let ended ← attempt (Session.scope s body)
    (next ended).run
  | stray body _ next => do
    let ended ← attempt body
    (next ended).run

/-- How a task ends: outside. -/
def Footing.Ends (_ : Except Interrupt Unit) (ft : Footing) : Prop := ft.inside? = some false

theorem SessionTask.abides (task : SessionTask s) (out : ft.inside? = some false) :
    task.run.Abides s ft Footing.Ends := by
  induction task generalizing ft with
  | done => exact out
  | visit body isUse next ih =>
    unfold run Session.scope
    rw [abides_bind, abides_attempt, abides_bind]
    obtain ⟨o, rfl⟩ : ∃ o, ft = .outside o := by cases ft <;> simp_all [Footing.inside?]
    refine Session.abides_enter (fun e => ih _ rfl) ?_
    rw [abides_ensuring]
    refine (isUse.abides rfl).mono fun result ft' inside => ?_
    obtain ⟨failed, rfl⟩ : ∃ failed, ft' = .inside failed := by
      cases ft' <;> simp_all [Footing.inside?]
    exact Session.abides_leave fun ended => ih _ rfl
  | stray body isUse next ih =>
    unfold run
    rw [abides_bind, abides_attempt]
    exact (isUse.abides out).mono fun ended ft' out' => ih ended out'

/-- Before it enters a scope, and once it has left one, a task is outside: only there it abides by
the rules with what a task does from its beginning. -/
theorem SessionTask.outside (task : SessionTask s) (abides : task.run.Abides s ft Footing.Ends) :
    ft.inside? = some false := by
  induction task generalizing ft with
  | done => exact abides
  | visit body isUse next ih =>
    cases abides with
    | elsewhere avoids => exact absurd rfl avoids
    | acquire => rfl
  | stray body isUse next ih =>
    unfold run at abides
    rw [abides_bind, abides_attempt] at abides
    obtain ⟨ended, ft', same, rest⟩ := isUse.exists_end abides
    exact same.symm.trans (ih ended rest)

end RecordAudit
