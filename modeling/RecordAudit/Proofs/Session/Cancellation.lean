import RecordAudit.Proofs.Session.Requests
import RecordAudit.Proofs.Session.ScopeTask

/-!
# Tasks that are cancelled

A task may be cancelled wherever it waits. One that waits for a lock gives up, and nothing else has
changed. One that waits for a check goes on without the answer, but has to wait for the check again;
left without the answer a second time, it takes the check for ended. `Program.Endures` asks of a
program that it keeps the rules either way. Tasks that visit scopes do.
-/

namespace RecordAudit

open TaskM

/-! ## Giving up a lock -/

namespace Lock

variable {l : Lock} {holds awaits : TaskId → Bool} {t : TaskId}

theorem Serves.leave (h : l.Serves holds awaits) (other : l.holder ≠ some t) :
    ({ l with waiting := l.waiting.erase t }).Serves holds (Function.update awaits t false) where
  holder u hu := by
    have differs : u ≠ t := fun same => other (same ▸ hu)
    simpa [differs] using h.holder u hu
  held := h.held
  queued u hu := by
    obtain ⟨differs, waits⟩ := h.nodup.mem_erase_iff.1 hu
    simpa [differs] using h.queued u waits
  served u hu := by
    have differs : u ≠ t := fun same => by simp [same] at hu
    rw [Function.update_of_ne differs] at hu
    exact (h.served u hu).imp_right fun waits => h.nodup.mem_erase_iff.2 ⟨differs, waits⟩
  apart u hu := h.apart u (List.mem_of_mem_erase hu)
  nodup := h.nodup.erase t
  idle e := by
    rw [h.idle e]
    rfl

theorem abandon_of_holder (h : l.holder = some t) : l.abandon t = l.release := if_pos h

theorem abandon_of_other (h : l.holder ≠ some t) :
    l.abandon t = { l with waiting := l.waiting.erase t } := if_neg h

end Lock

variable {σ α β : Type} {b : Backend σ} {clean : σ → Prop} {allows : Replies} {st : Stance}
  {s : SessionId}

theorem SessionState.Fits.leave {past calls : List (TaskId × Call)} {loop : Nat}
    {session : SessionState σ} {place : TaskId → Place} {made : TaskId → List (List Call)}
    {t : TaskId} (h : session.Fits b clean past calls loop place made) (queued : place t = .queued)
    (other : (session.lock.on loop).holder ≠ some t) :
    ({ session with lock := (session.lock.on loop).abandon t }).Fits b clean past calls loop
      (Function.update place t .away) made := by
  have on : ((session.lock.on loop).abandon t).on loop = (session.lock.on loop).abandon t := by
    rw [Lock.abandon_of_other other]
    exact Lock.on_of_loop (Lock.on_loop _ _)
  have same : ((session.lock.on loop).abandon t).inProgress (Function.update place t .away) =
      (session.lock.on loop).inProgress place := by
    rw [Lock.inProgress_update _ (by rw [queued]; rfl), Lock.abandon_of_other other]
    rfl
  refine ⟨?_, ?_, h.owner_update (by rw [queued]; rfl), ?_, ?_⟩
  · rw [Lock.abandon_of_other other]
    exact Nat.le_of_eq (Lock.on_loop _ _)
  · rw [on, Lock.abandon_of_other other, comp_update_same Place.holds (by rw [queued]; rfl),
      comp_update Place.awaits]
    exact h.lock.leave other
  · rw [on, same]
    exact h.backend
  · rw [on, same]
    exact h.record

/-- A task that waits for a lock gives up, or passes on the lock when it has just been handed it. -/
theorem Consistent.abandon {m : Machine σ} {allows : Replies}
    {past : SessionId → List (TaskId × Call)} {w : World σ} {stance : TaskId → Stance} {t : TaskId}
    (h : Consistent m allows clean past w stance) {s : SessionId}
    (queued : (stance t).hold = .queued (.session s)) :
    Consistent m allows clean past (w.setLock (.session s) ((w.lock (.session s)).abandon t))
      (Function.update stance t ((stance t).holding .nothing)) := by
  by_cases handed : (w.lock (.session s)).holder = some t
  · rw [Lock.abandon_of_holder handed]
    have noticed := h.granted queued handed
    have given := noticed.release_session (t := t) (s := s) (by rw [Function.update_self]; rfl)
    rw [Function.update_self, Function.update_idem] at given
    exact given
  · have sound := (h.sound t).hold
    rw [queued] at sound
    obtain ⟨session, e, fits⟩ := h.fits sound
    rw [World.lock_session e] at handed ⊢
    have r := World.revised_updateSession e fun x =>
      { x with lock := (session.lock.on w.loop).abandon t }
    refine h.onSession_holding r ?_ (fun l other => ?_) trivial
    · exact fits.leave (by rw [queued, Hold.at_queued_self]) handed
    · rw [queued, Hold.at_queued_other other, Hold.at_nothing]

/-! ## Programs that may be cancelled -/

/-- What is asked of a session without waiting. -/
def Request.OnSession : Request → Prop
  | .release (.session _) | .claim _ | .disclaim _ | .owns _ | .push _ | .pop _ | .add _ _ |
      .startCheck _ _ => True
  | _ => False

/-- What a request asks of a task that uses sessions and is cancelled while it waits. `left` says
whether the task has gone on without the answer of the check before: the first time it still has to
wait for the check, the second time it takes the check for ended. -/
def Request.withstands :
    (r : Request) → Stance → (left : Bool) → (r.Response → Stance → Bool → Prop) → Prop
  | .acquire (.session _), st, _, K => K none st false
  | .awaitCheck _, st, false, K => K none st true
  | .awaitCheck c, st, true, K => ∀ s n calls τ, st.hold = .checking s n calls τ c →
    K none (st.holding (.scope s true n (calls ++ [.check τ]))) false
  | r, _, _, _ => r.OnSession

/-- The program keeps the rules whether or not it is cancelled where it waits, and holds nothing in
the end. -/
def Program.Endures (allows : Replies) : Program α → Stance → (left : Bool) → Prop
  | .done _, st, _ => st.hold = .nothing
  | .ask r next, st, left =>
    (r.wp allows st fun response st' => (next response).Endures allows st' false) ∧
      r.withstands st left fun response st' left' => (next response).Endures allows st' left'

/-- A part of a program that keeps the rules, and leaves the rest with a result and a stance as
wished. -/
structure TaskM.Endures (allows : Replies) (p : TaskM α) (st : Stance)
    (Q : Except Interrupt α → Stance → Prop) :
    Prop where
  followed : ∀ {β : Type} (next : Except Interrupt α → Program β),
    (∀ result st', Q result st' → (next result).Endures allows st' false) →
      (p.run >>= next).Endures allows st false

namespace TaskM.Endures

variable {Q : Except Interrupt α → Stance → Prop}

theorem mono {p : TaskM α} {Q' : Except Interrupt α → Stance → Prop} (h : p.Endures allows st Q)
    (weaker : ∀ result st', Q result st' → Q' result st') : p.Endures allows st Q' :=
  ⟨fun next rest => h.followed next fun result st' hQ => rest result st' (weaker result st' hQ)⟩

theorem pure {a : α} (h : Q (.ok a) st) : (Pure.pure a : TaskM α).Endures allows st Q :=
  ⟨fun _ rest => rest _ _ h⟩

theorem throw {e : Interrupt} (h : Q (.error e) st) :
    (MonadExcept.throw e : TaskM α).Endures allows st Q :=
  ⟨fun _ rest => rest _ _ h⟩

theorem ask {r : Request} {Q : Except Interrupt r.Response → Stance → Prop}
    (wp : r.wp allows st fun response st' => Q (.ok response) st') (isUse : r.OnSession) :
    (TaskM.ask r).Endures allows st Q := by
  refine ⟨fun next rest => ⟨Request.wp_mono (fun response st' hQ => rest _ _ hQ) wp, ?_⟩⟩
  cases r with
  | acquire | awaitCheck => exact isUse.elim
  | _ => exact isUse

theorem ofExcept {x : Except Fault α} (h : Q (x.mapError .fault) st) :
    (TaskM.ofExcept x).Endures allows st Q := by
  cases x with
  | ok a => exact pure h
  | error f => exact throw h

/-- What is wished of the first part so that the rest meets the wish. -/
def andThen (allows : Replies) (f : α → TaskM β) (Q : Except Interrupt β → Stance → Prop) :
    Except Interrupt α → Stance → Prop
  | .ok a, st => (f a).Endures allows st Q
  | .error e, st => Q (.error e) st

theorem bind {p : TaskM α} {f : α → TaskM β} {Q : Except Interrupt β → Stance → Prop}
    (h : p.Endures allows st (andThen allows f Q)) : (p >>= f).Endures allows st Q := by
  refine ⟨fun next rest => ?_⟩
  rw [ExceptT.run_bind, bind_assoc]
  refine h.followed _ fun result st' hQ => ?_
  cases result with
  | ok a => exact hQ.followed next rest
  | error e => exact rest _ _ hQ

theorem ask_bind {r : Request} {f : r.Response → TaskM β} {Q : Except Interrupt β → Stance → Prop}
    (wp : r.wp allows st fun response st' => (f response).Endures allows st' Q)
    (isUse : r.OnSession) :
    (TaskM.ask r >>= f).Endures allows st Q := bind (ask wp isUse)

theorem ensuring {body : TaskM α} {conclusion : TaskM Unit}
    (h : body.Endures allows st fun result st' => conclusion.Endures allows st' fun after st'' =>
      Q (after.bind fun _ => result) st'') : (TaskM.ensuring body conclusion).Endures
        allows st Q := by
  refine ⟨fun next rest => ?_⟩
  unfold TaskM.ensuring
  rw [ExceptT.run_mk, bind_assoc]
  refine h.followed _ fun result st' concluded => ?_
  rw [bind_assoc]
  refine concluded.followed _ fun after st'' hQ => ?_
  cases after <;> exact rest _ _ hQ

theorem orElse {body : TaskM α} {amends : TaskM Unit}
    (h : body.Endures allows st fun result st' => match result with
      | .ok a => Q (.ok a) st'
      | .error e =>
        amends.Endures allows st' fun after st'' => Q (after.bind fun _ => .error e) st'') :
    (TaskM.orElse body amends).Endures allows st Q := by
  refine ⟨fun next rest => ?_⟩
  unfold TaskM.orElse
  rw [ExceptT.run_mk, bind_assoc]
  refine h.followed _ fun result st' amended => ?_
  cases result with
  | ok a => exact rest _ _ amended
  | error e =>
    dsimp only at amended ⊢
    rw [bind_assoc]
    refine amended.followed _ fun after st'' hQ => ?_
    cases after <;> exact rest _ _ hQ

theorem tryCatch {body : TaskM α} {handler : Interrupt → TaskM α}
    (h : body.Endures allows st fun result st' => match result with
      | .ok a => Q (.ok a) st'
      | .error e => (handler e).Endures allows st' Q) :
    (MonadExcept.tryCatch body handler : TaskM α).Endures allows st Q := by
  refine ⟨fun next rest => ?_⟩
  rw [ExceptT.run_tryCatch, bind_assoc]
  refine h.followed _ fun result st' hc => ?_
  cases result with
  | ok a => exact rest _ _ hc
  | error e => exact hc.followed next rest

theorem attempt {body : TaskM α} {Q : Except Interrupt (Except Interrupt α) → Stance → Prop}
    (h : body.Endures allows st fun ended st' => Q (.ok ended) st') :
    (TaskM.attempt body).Endures allows st Q := by
  refine tryCatch (bind (h.mono fun ended st' hQ => ?_))
  cases ended with
  | ok a => exact pure hQ
  | error e => exact pure hQ

end TaskM.Endures

/-! ## Operations -/

namespace Session

variable {n : Nat} {calls : List Call}

theorem endures_push {Q : Except Interrupt Unit → Stance → Prop} (steady : allows.Steady)
    (hold : st.hold = .scope s true n calls)
    (h : Q (.ok ()) (st.holding (.scope s true (n + 1) (calls ++ [.push])))) :
    (push s).Endures allows st Q := by
  refine .ask_bind ⟨n, calls, hold, fun reply allowed => .ofExcept ?_⟩ trivial
  rw [steady.push allowed]
  exact h

theorem endures_pop {Q : Except Interrupt Unit → Stance → Prop} (steady : allows.Steady)
    (hold : st.hold = .scope s true (n + 1) calls)
    (h : Q (.ok ()) (st.popped s n calls)) : (pop s).Endures allows st Q := by
  refine .ask_bind ⟨n, calls, hold, fun reply allowed => .ofExcept ?_⟩ trivial
  rw [steady.pop allowed]
  exact h

theorem endures_inside {p : Unit → TaskM α} {Q : Except Interrupt α → Stance → Prop}
    (hold : st.hold = .scope s true n calls) (h : (p ()).Endures allows st Q) :
    (requireScope s >>= p).Endures allows st Q := by
  have owned : st.hold.owns s = true := by simp [hold, Hold.owns]
  refine .bind (.ask_bind ?_ trivial)
  change TaskM.Endures allows (if !st.hold.owns s then _ else _) st _
  rw [owned]
  exact .pure h

theorem endures_refused {p : Unit → TaskM α} {Q : Except Interrupt α → Stance → Prop}
    (out : st.hold.owns s = false) (h : Q (.error (.fault .outsideScope)) st) :
    (requireScope s >>= p).Endures allows st Q := by
  refine .bind (.ask_bind ?_ trivial)
  change TaskM.Endures allows (if !st.hold.owns s then _ else _) st _
  rw [out]
  exact .throw h

theorem endures_add {a : Operand} {Q : Except Interrupt Unit → Stance → Prop}
    (hold : st.hold = .scope s true (n + 1) calls)
    (h : ∀ result, Q result (st.holding (.scope s true (n + 1) (calls ++ [.add a])))) :
    (add s a).Endures allows st Q :=
  endures_inside hold (.ask_bind ⟨n, calls, hold, fun _ _ => .ofExcept (h _)⟩ trivial)

/-- A check is over when the task goes on: it has answered, or the task was left without its answer
twice. -/
theorem endures_check {τ : Timeout} {Q : Except Interrupt Answer → Stance → Prop}
    (hold : st.hold = .scope s true (n + 1) calls)
    (h : ∀ result, Q result (st.holding (.scope s true (n + 1) (calls ++ [.check τ])))) :
    (check s τ).Endures allows st Q := by
  refine endures_inside hold (.ask_bind ⟨n, calls, hold, fun c => ⟨fun next rest => ?_⟩⟩ trivial)
  have after : ∀ result,
      (next result).Endures allows (st.holding (.scope s true (n + 1) (calls ++ [.check τ])))
          false :=
    fun result => rest result _ (h result)
  have again : (Program.ask (.awaitCheck c) fun _ => next (.error .cancelled)).Endures allows
      (st.holding (.checking s (n + 1) calls τ c)) true := by
    refine ⟨⟨s, n, calls, τ, rfl, fun _ _ => after _⟩, ?_⟩
    rintro s' n' calls' τ' ⟨⟩
    exact after _
  refine ⟨⟨s, n, calls, τ, rfl, fun answer _ => ?_⟩, again⟩
  cases answer with
  | ok a => exact after (.ok a)
  | error f => exact after (.error (.fault f))

theorem endures_frame {body : TaskM α} {Q : Except Interrupt α → Stance → Prop}
    (steady : allows.Steady) (hold : st.hold = .scope s true (n + 1) calls)
    (h : body.Endures allows (st.holding (.scope s true (n + 2) (calls ++ [.push])))
      fun result st' =>
      ∃ calls', st'.hold = .scope s true (n + 2) calls' ∧
        Q result (st'.holding (.scope s true (n + 1) (calls' ++ [.pop])))) :
    (frame s body).Endures allows st Q := by
  refine .bind (endures_inside hold (endures_push steady hold (.ensuring (h.mono ?_))))
  rintro result st' ⟨calls', hold', hQ⟩
  exact endures_pop steady hold' hQ

theorem endures_leave {Q : Except Interrupt Unit → Stance → Prop} (steady : allows.Steady)
    (hold : st.hold = .scope s true 1 calls)
    (h : Q (.ok ()) (st.left s (calls ++ [.pop]))) : (leave s).Endures allows st Q := by
  refine .ensuring (.bind (endures_pop steady hold ?_))
  exact .ask ⟨rfl, .ask ⟨rfl, h⟩ trivial⟩ trivial

/-- A task that is cancelled while it waits for the lock does not enter the scope. -/
theorem endures_enter {Q : Except Interrupt Unit → Stance → Prop} (steady : allows.Steady)
    (hold : st.hold = .nothing) (known : s ∈ st.known) (cancelled : Q (.error .cancelled) st)
    (h : Q (.ok ()) (st.holding (.scope s true 1 [.push]))) : (enter s).Endures allows st Q := by
  have granted : (orElse (do ask (.claim s); push s) (ask (.release (.session s)))).Endures allows
      (st.holding (.scope s false 0 [])) Q :=
    .orElse (.ask_bind ⟨rfl, endures_push steady rfl h⟩ trivial)
  exact ⟨fun next rest => ⟨⟨hold, known, granted.followed next rest⟩, rest _ _ cancelled⟩⟩

/-- A body that leaves its scope as it found it, but for the calls that it made. -/
theorem endures_scope {body : TaskM α} {Q : Except Interrupt α → Stance → Prop}
    (steady : allows.Steady) (hold : st.hold = .nothing) (known : s ∈ st.known)
    (cancelled : Q (.error .cancelled) st)
    (h : body.Endures allows (st.holding (.scope s true 1 [.push])) fun result st' =>
      ∃ calls, st'.hold = .scope s true 1 calls ∧ Q result (st'.left s (calls ++ [.pop]))) :
    (scope s body).Endures allows st Q := by
  refine .bind (endures_enter steady hold known cancelled (.ensuring (h.mono ?_)))
  rintro result st' ⟨calls, hold', hQ⟩
  exact endures_leave steady hold' hQ

end Session

/-! ## Tasks -/

/-- In its scope a body keeps the rules, and leaves the scope as it found it. -/
theorem ScopeBody.endures_inside {body : TaskM α} (h : ScopeBody s body) (steady : allows.Steady)
    {n : Nat} {calls : List Call} (hold : st.hold = .scope s true (n + 1) calls) :
    body.Endures allows st fun _ st' => ∃ calls', st' =
      st.holding (.scope s true (n + 1) calls') := by
  have here : st = st.holding (.scope s true (n + 1) calls) := by rw [← hold, Stance.holding_self]
  induction h generalizing st n calls with
  | pure a => exact .pure ⟨calls, here⟩
  | throw e => exact .throw ⟨calls, here⟩
  | add a => exact Session.endures_add hold fun _ => ⟨_, rfl⟩
  | check τ => exact Session.endures_check hold fun _ => ⟨_, rfl⟩
  | frame _ ih =>
    refine Session.endures_frame steady hold ((ih rfl rfl).mono ?_)
    rintro ended st' ⟨calls', rfl⟩
    exact ⟨calls', rfl, _, rfl⟩
  | bind _ _ ih ihNext =>
    refine .bind ((ih hold here).mono ?_)
    rintro (e | a) st' ⟨calls', rfl⟩
    · exact ⟨calls', rfl⟩
    · exact ihNext a rfl rfl
  | tryCatch _ _ ih ihHandler =>
    refine .tryCatch ((ih hold here).mono ?_)
    rintro (e | a) st' ⟨calls', rfl⟩
    · exact ihHandler e rfl rfl
    · exact ⟨calls', rfl⟩

/-- Outside the scope it is refused, and changes nothing. -/
theorem ScopeBody.endures_outside {body : TaskM α} (h : ScopeBody s body)
    (out : st.hold.owns s = false) :
    body.Endures allows st fun _ st' => st' = st := by
  induction h with
  | pure a => exact .pure rfl
  | throw e => exact .throw rfl
  | add a => exact Session.endures_refused out rfl
  | check τ => exact Session.endures_refused out rfl
  | frame _ _ => exact .bind (Session.endures_refused out rfl)
  | bind _ _ ih ihNext =>
    refine .bind (ih.mono ?_)
    rintro (e | a) st' rfl
    · rfl
    · exact ihNext a
  | tryCatch _ _ ih ihHandler =>
    refine .tryCatch (ih.mono ?_)
    rintro (e | a) st' rfl
    · exact ihHandler e
    · rfl

/-- A task that visits scopes keeps the rules wherever it is cancelled. -/
theorem ScopeTask.endures (task : ScopeTask s) (steady : allows.Steady) (hold : st.hold = .nothing)
    (known : s ∈ st.known) : task.run.Endures allows st fun _ st' => st'.hold = .nothing := by
  induction task generalizing st with
  | done => exact .pure hold
  | visit body isBody next ih =>
    have rest : ∀ ended (st' : Stance), st'.hold = .nothing → s ∈ st'.known →
        (do return (← (next ended).run) + 1 : TaskM Nat).Endures allows st' fun _ st'' =>
          st''.hold = .nothing := by
      intro ended st' idle known
      refine .bind ((ih ended idle known).mono fun result st'' idle => ?_)
      cases result with
      | ok entered => exact .pure idle
      | error e => exact idle
    refine .bind (.attempt (Session.endures_scope steady hold known (rest _ _ hold known) ?_))
    refine (isBody.endures_inside steady rfl).mono ?_
    rintro ended st' ⟨calls, rfl⟩
    exact ⟨calls, rfl, rest _ _ rfl known⟩
  | stray body isBody next ih =>
    refine .bind (.attempt ((isBody.endures_outside (by rw [hold]; rfl)).mono ?_))
    rintro ended st' rfl
    exact ih ended hold known

end RecordAudit
