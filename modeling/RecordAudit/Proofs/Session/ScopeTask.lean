import RecordAudit.Proofs.Session.Operations

/-!
# Tasks that use the scopes of one session

A task enters scopes one after the other, and does in each whatever may be done in a scope, in any
order and depending on all that it has seen. Such a task keeps the rules, and completes one block of
calls for each scope that it enters: a push, the calls of what it does there, and a pop.
-/

namespace RecordAudit

open TaskM

/-- What may be done in a scope: additions, checks and frames, left with a result or by an
interrupt. -/
inductive ScopeBody (s : SessionId) : {α : Type} → TaskM α → Prop where
  | pure {α : Type} (a : α) : ScopeBody s (pure a : TaskM α)
  | throw {α : Type} (e : Interrupt) : ScopeBody s (throw e : TaskM α)
  | add (a : Operand) : ScopeBody s (Session.add s a)
  | check (timeout : Timeout) : ScopeBody s (Session.check s timeout)
  | frame {α : Type} {body : TaskM α} : ScopeBody s body → ScopeBody s (Session.frame s body)
  | bind {α β : Type} {body : TaskM α} {next : α → TaskM β} :
    ScopeBody s body → (∀ a, ScopeBody s (next a)) → ScopeBody s (body >>= next)
  | tryCatch {α : Type} {body : TaskM α} {handler : Interrupt → TaskM α} :
    ScopeBody s body → (∀ e, ScopeBody s (handler e)) → ScopeBody s (tryCatch body handler)

/-- A task that visits scopes of a session. What it does next depends on how the last visit
ended. -/
inductive ScopeTask (s : SessionId) : Type 1 where
  | done
  | visit {α : Type} (body : TaskM α) (isBody : ScopeBody s body)
    (next : Except Interrupt α → ScopeTask s)
  /-- The task does outside every scope what may only be done inside. -/
  | stray {α : Type} (body : TaskM α) (isBody : ScopeBody s body)
    (next : Except Interrupt α → ScopeTask s)

/-- How a body can end in its scope, and the calls that it then has made there: its additions and
checks in order, and around those of a frame a push and a pop. -/
inductive TaskM.Makes (s : SessionId) :
    {α : Type} → TaskM α → Except Interrupt α → List Call → Prop where
  | pure {α : Type} (a : α) : Makes s (pure a : TaskM α) (.ok a) []
  | throw {α : Type} (e : Interrupt) : Makes s (throw e : TaskM α) (.error e) []
  | add (a : Operand) (reply : Except Fault Unit) :
    Makes s (Session.add s a) (reply.mapError .fault) [.add a]
  | check (timeout : Timeout) (answer : Except Fault Answer) :
    Makes s (Session.check s timeout) (answer.mapError .fault) [.check timeout]
  | frame {α : Type} {body : TaskM α} {ended : Except Interrupt α} {calls : List Call} :
    Makes s body ended calls → Makes s (Session.frame s body) ended (.push :: calls ++ [.pop])
  | bind {α β : Type} {body : TaskM α} {next : α → TaskM β} {a : α} {ended : Except Interrupt β}
    {calls more : List Call} :
    Makes s body (.ok a) calls → Makes s (next a) ended more →
      Makes s (body >>= next) ended (calls ++ more)
  | bind_error {α β : Type} {body : TaskM α} {next : α → TaskM β} {e : Interrupt}
      {calls : List Call} :
    Makes s body (.error e) calls → Makes s (body >>= next) (.error e) calls
  | tryCatch {α : Type} {body : TaskM α} {handler : Interrupt → TaskM α} {a : α}
      {calls : List Call} :
    Makes s body (.ok a) calls → Makes s (tryCatch body handler) (.ok a) calls
  | tryCatch_error {α : Type} {body : TaskM α} {handler : Interrupt → TaskM α} {e : Interrupt}
    {ended : Except Interrupt α} {calls more : List Call} :
    Makes s body (.error e) calls → Makes s (handler e) ended more →
      Makes s (tryCatch body handler) ended (calls ++ more)

/-- How a body ends, as a result. -/
def TaskM.attempt {α : Type} (body : TaskM α) : TaskM (Except Interrupt α) :=
  tryCatch (do return .ok (← body)) fun e => return .error e

namespace ScopeTask

/-- What the task does, with the number of scopes that it entered. -/
def run {s : SessionId} : ScopeTask s → TaskM Nat
  | done => return 0
  | visit body _ next => do
    let ended ← attempt (Session.scope s body)
    return (← (next ended).run) + 1
  | stray body _ next => do
    let ended ← attempt body
    (next ended).run

/-- The blocks of calls that a task can make, one for each scope that it enters. -/
inductive Makes {s : SessionId} : ScopeTask s → List (List Call) → Prop where
  | done : Makes done []
  | visit {α : Type} {body : TaskM α} {isBody : ScopeBody s body}
      {next : Except Interrupt α → ScopeTask s}
    {ended : Except Interrupt α} {calls : List Call} {blocks : List (List Call)} :
    TaskM.Makes s body ended calls → Makes (next ended) blocks →
      Makes (visit body isBody next) ((.push :: calls ++ [.pop]) :: blocks)
  | stray {α : Type} {body : TaskM α} {isBody : ScopeBody s body}
      {next : Except Interrupt α → ScopeTask s}
    {ended : Except Interrupt α} {blocks : List (List Call)} :
    Makes (next ended) blocks → Makes (stray body isBody next) blocks

end ScopeTask

variable {α : Type} {allows : Replies} {s : SessionId} {st : Stance}

theorem TaskM.wp_attempt (body : TaskM α)
    (Q : Except Interrupt (Except Interrupt α) → Stance → Prop) :
    (attempt body).wp allows st Q ↔ body.wp allows st fun ended st' => Q (.ok ended) st' := by
  unfold attempt
  rw [wp_tryCatch, wp_bind]
  refine ⟨TaskM.wp_mono fun ended st' h => ?_, TaskM.wp_mono fun ended st' h => ?_⟩
  all_goals cases ended <;> exact h

namespace ScopeBody

/-- In its scope a body makes its own calls, which leave the frames as they are. -/
theorem wp_inside {body : TaskM α} (h : ScopeBody s body) (steady : allows.Steady) {n : Nat}
    {calls : List Call} (hold : st.hold = .scope s true (n + 1) calls) :
    body.wp allows st fun ended st' => ∃ made, TaskM.Makes s body ended made ∧
      st' = st.holding (.scope s true (n + 1) (calls ++ made)) := by
  have here : ∀ {st : Stance} {n : Nat} {calls : List Call}, st.hold = .scope s true (n + 1) calls →
      st = st.holding (.scope s true (n + 1) (calls ++ [])) := fun {st n calls} hold => by
    rw [List.append_nil, ← hold, Stance.holding_self]
  induction h generalizing st n calls with
  | pure a => exact ⟨[], .pure a, here hold⟩
  | throw e => exact ⟨[], .throw e, here hold⟩
  | add a => exact Session.wp_add hold fun reply _ => ⟨_, .add a reply, rfl⟩
  | check τ => exact Session.wp_check hold fun answer _ => ⟨_, .check τ answer, rfl⟩
  | frame _ ih =>
    refine Session.wp_frame steady hold (TaskM.wp_mono ?_ (ih rfl))
    rintro ended st' ⟨made, makes, rfl⟩
    exact ⟨_, rfl, .push :: made ++ [.pop], makes.frame, by simp⟩
  | bind _ _ ih ihNext =>
    rw [TaskM.wp_bind]
    refine TaskM.wp_mono ?_ (ih hold)
    rintro (e | a) st' ⟨made, makes, rfl⟩
    · exact ⟨made, makes.bind_error, rfl⟩
    · refine TaskM.wp_mono ?_ (ihNext a rfl)
      rintro ended st' ⟨more, makesNext, rfl⟩
      exact ⟨made ++ more, makes.bind makesNext, by simp⟩
  | tryCatch _ _ ih ihHandler =>
    rw [TaskM.wp_tryCatch]
    refine TaskM.wp_mono ?_ (ih hold)
    rintro (e | a) st' ⟨made, makes, rfl⟩
    · refine TaskM.wp_mono ?_ (ihHandler e rfl)
      rintro ended st' ⟨more, makesHandler, rfl⟩
      exact ⟨made ++ more, makes.tryCatch_error makesHandler, by simp⟩
    · exact ⟨made, makes.tryCatch, rfl⟩

/-- Outside the scope a body changes nothing. -/
theorem wp_outside {body : TaskM α} (h : ScopeBody s body) (out : st.hold.owns s = false) :
    body.wp allows st fun _ st' => st' = st := by
  induction h with
  | pure a => rfl
  | throw e => rfl
  | add a => exact Session.wp_add_refused out rfl
  | check τ => exact Session.wp_check_refused out rfl
  | frame _ _ => exact Session.wp_frame_refused out rfl
  | bind _ _ ih ihNext =>
    rw [TaskM.wp_bind]
    refine TaskM.wp_mono ?_ ih
    rintro (e | a) st' rfl
    · rfl
    · exact ihNext a
  | tryCatch _ _ ih ihHandler =>
    rw [TaskM.wp_tryCatch]
    refine TaskM.wp_mono ?_ ih
    rintro (e | a) st' rfl
    · exact ihHandler e
    · rfl

end ScopeBody

/-- How a task that visits scopes ends: it holds nothing, its blocks are those of its scopes, and
its result is their number. -/
def ScopeTask.Ends (task : ScopeTask s) (made : List (SessionId × List Call))
    (result : Except Interrupt Nat) (st : Stance) : Prop :=
  ∃ blocks : List (List Call), task.Makes blocks ∧ result = .ok blocks.length ∧ st.hold = .nothing ∧
    st.made = made ++ blocks.map (Prod.mk s)

theorem ScopeTask.wp_run (task : ScopeTask s) (steady : allows.Steady) (hold : st.hold = .nothing)
    (known : s ∈ st.known) : task.run.wp allows st (task.Ends st.made) := by
  induction task generalizing st with
  | done => exact ⟨[], .done, rfl, hold, by simp⟩
  | visit body isBody next ih =>
    unfold run
    rw [TaskM.wp_bind, TaskM.wp_attempt]
    refine Session.wp_scope steady hold known (TaskM.wp_mono ?_ (isBody.wp_inside steady rfl))
    rintro ended st' ⟨calls, makes, rfl⟩
    refine ⟨_, rfl, ?_⟩
    rw [andThen_ok, TaskM.wp_bind]
    refine TaskM.wp_mono ?_ (ih ended rfl known)
    rintro result st' ⟨blocks, makesNext, rfl, idle, made⟩
    exact ⟨_, .visit makes makesNext, rfl, idle, by simp [made]⟩
  | stray body isBody next ih =>
    unfold run
    rw [TaskM.wp_bind, TaskM.wp_attempt]
    refine TaskM.wp_mono ?_ (isBody.wp_outside (by rw [hold]; rfl))
    rintro ended st' rfl
    refine TaskM.wp_mono ?_ (ih ended hold known)
    rintro result st' ⟨blocks, makesNext, rest⟩
    exact ⟨blocks, .stray makesNext, rest⟩

end RecordAudit
