import RecordAudit.Proofs.Session.Alone
import RecordAudit.Proofs.Session.Cancellation
import RecordAudit.Proofs.Session.Footing

/-!
# One session and the permissions of tasks

What a session has to do with the footings of tasks when any call to its backend may fail: whom its
lock serves, who owns its scope, and which failed calls let a task own it that has left. Every
request that abides by the rules keeps this up.
-/

namespace RecordAudit

variable {σ α : Type} {b : Backend σ} {start : σ} {owner owner' : Option TaskId}
  {calls calls' : List (TaskId × Call)} {past : List (TaskId × Call)}
  {gave : TaskId → List (List (TaskId × Call))} {n loop : Nat} {session session' : SessionState σ}
  {footing : TaskId → Footing} {t u : TaskId} {ft ft' : Footing}

/-! ## Failed calls -/

/-- The call is a push or a pop, and fails. -/
def Backend.Fails (b : Backend σ) (state : σ) : Call → Prop
  | .push => ∃ f, (b.respond .push state).1 = .error f
  | .pop => ∃ f, (b.respond .pop state).1 = .error f
  | .add _ | .check _ => False

/-- The latest of the calls to a session is a push or a pop of the task that failed. -/
def Backend.FailsLast (b : Backend σ) (start : σ) (calls : List (TaskId × Call)) (t : TaskId) :
    Prop :=
  ∃ before c, calls = before ++ [(t, c)] ∧ b.Fails (b.after (before.map Prod.snd) start) c

/-- When the task last gave the lock back, the latest of the calls was a push or a pop of it that
failed, and no other task has opened a frame since. The calls are those beyond the past, and `gave`
are all calls at the times when the task gave the lock back. -/
def Backend.Lingers (b : Backend σ) (start : σ) (past : List (TaskId × Call))
    (gave : List (List (TaskId × Call))) (calls : List (TaskId × Call)) (t : TaskId) : Prop :=
  ∃ earlier since, calls = earlier ++ since ∧ gave.getLast? = some (past ++ earlier) ∧
    b.FailsLast start earlier t ∧ ∀ u ≠ t, (u, Call.push) ∉ since

theorem Backend.FailsLast.lingers (h : b.FailsLast start calls t)
    (earlier : List (List (TaskId × Call))) :
    b.Lingers start past (earlier ++ [past ++ calls]) calls t :=
  ⟨calls, [], (List.append_nil calls).symm, List.getLast?_concat, h, by simp⟩

theorem Backend.Lingers.concat {gave : List (List (TaskId × Call))}
    (h : b.Lingers start past gave calls t) {c : Call} (may : u = t ∨ c ≠ .push) :
    b.Lingers start past gave (calls ++ [(u, c)]) t := by
  obtain ⟨earlier, since, rfl, last, failed, none_since⟩ := h
  refine ⟨earlier, since ++ [(u, c)], by simp, last, failed, fun v other pushed => ?_⟩
  rcases List.mem_append.1 pushed with before | now
  · exact none_since v other before
  · obtain ⟨rfl, rfl⟩ := Prod.mk.inj (List.mem_singleton.1 now)
    exact may.elim other fun not_push => not_push rfl

/-! ## One session -/

/-- All tasks but one rest. -/
def OthersRest (footing : TaskId → Footing) (t : TaskId) : Prop :=
  ∀ u ≠ t, (footing u).rested = footing u

theorem OthersRest.update (h : OthersRest footing t) (ft' : Footing) :
    OthersRest (Function.update footing t ft') t := by
  intro u other
  rw [Function.update_of_ne other]
  exact h u other

/-- What the footing of a task says about the owner of the scope and the calls so far. -/
def Footing.Fits (b : Backend σ) (start : σ) (past : List (TaskId × Call))
    (gave : List (List (TaskId × Call))) (owner : Option TaskId) (calls : List (TaskId × Call))
    (t : TaskId) : Footing → Prop
  | .outside owns =>
    (owns = true → owner = some t) ∧ (owner = some t → b.Lingers start past gave calls t)
  | .queued => owner = some t → b.Lingers start past gave calls t
  | .granted => True
  | .inside failed => owner = some t ∧ (failed = true → b.FailsLast start calls t)
  | .withdrawn => owner ≠ some t

section Fits

variable {gave : List (List (TaskId × Call))}

/-- The footing of a task that rests goes on to fit while other tasks act. -/
theorem Footing.Fits.others (h : ft.Fits b start past gave owner calls u) (rests : ft.rested = ft)
    (inside : ft.inside? = some true → owner' = owner)
    (keeps : owner' = some u →
      owner = some u ∧ (b.Lingers start past gave calls u → b.Lingers start past gave calls' u)) :
    ft.Fits b start past gave owner' calls' u := by
  have lingers (was : owner = some u → b.Lingers start past gave calls u) (now : owner' = some u) :
      b.Lingers start past gave calls' u := (keeps now).2 (was (keeps now).1)
  cases ft with
  | outside owns =>
    obtain rfl : false = owns := Footing.outside.inj rests
    exact ⟨nofun, lingers h.2⟩
  | queued => exact lingers h
  | granted => trivial
  | inside failed =>
    obtain rfl : false = failed := Footing.inside.inj rests
    exact ⟨(inside rfl).trans h.1, nofun⟩
  | withdrawn => exact fun now => h (keeps now).1

theorem Footing.Fits.owner_eq (h : ft.Fits b start past gave owner calls t)
    (owns : ft.owns = true) : owner = some t := by
  cases ft with
  | outside => exact h.1 owns
  | inside => exact h.1
  | queued | granted | withdrawn => cases owns

theorem Footing.Fits.told (h : ft.Fits b start past gave owner calls t) :
    (ft.told (owner == some t)).Fits b start past gave owner calls t := by
  cases ft with
  | outside => exact ⟨fun isOwner => by simpa using isOwner, h.2⟩
  | queued | granted | inside | withdrawn => exact h

theorem Footing.Fits.rested (h : ft.Fits b start past gave owner calls t) :
    ft.rested.Fits b start past gave owner calls t := by
  cases ft with
  | outside => exact ⟨nofun, h.2⟩
  | inside => exact ⟨h.1, nofun⟩
  | queued | granted | withdrawn => exact h

theorem Footing.Fits.called (h : ft.Fits b start past gave owner calls t) (c : Call) :
    ft.rested.Fits b start past gave owner (calls ++ [(t, c)]) t := by
  cases ft with
  | outside => exact ⟨nofun, fun isOwner => (h.2 isOwner).concat (.inl rfl)⟩
  | queued => exact fun isOwner => (h isOwner).concat (.inl rfl)
  | granted => trivial
  | inside => exact ⟨h.1, nofun⟩
  | withdrawn => exact h

theorem Footing.Fits.replied (h : ft.Fits b start past gave owner calls t) {c : Call}
    {reply : Except Fault Unit}
    (fails : ∀ f, reply = .error f → b.Fails (b.after (calls.map Prod.snd) start) c) :
    (ft.replied reply).Fits b start past gave owner (calls ++ [(t, c)]) t := by
  cases ft with
  | inside =>
    cases reply with
    | ok => exact h.called c
    | error f => exact ⟨h.1, fun _ => ⟨calls, c, rfl, fails f rfl⟩⟩
  | outside | queued | granted | withdrawn => exact h.called c

/-- While a task has the lock it does not matter when it gave it back. -/
theorem Footing.Fits.of_holds (h : ft.Fits b start past gave owner calls t)
    (holds : ft.holds = true) (gave' : List (List (TaskId × Call))) :
    ft.Fits b start past gave' owner calls t := by
  cases ft with
  | outside | queued => cases holds
  | granted | inside | withdrawn => exact h

end Fits

/-- A session fits the footings of tasks, of which there are so many. Its lock serves them, its
backend has taken the calls, and its owner is as they know it. -/
structure SessionState.Grants (b : Backend σ) (start : σ) (past : List (TaskId × Call))
    (gave : TaskId → List (List (TaskId × Call))) (n loop : Nat) (session : SessionState σ)
    (footing : TaskId → Footing) (calls : List (TaskId × Call)) : Prop where
  lock : (session.lock.on loop).Serves (Footing.holds ∘ footing) (Footing.awaits ∘ footing)
  backend : session.backend = b.after (calls.map Prod.snd) start
  fits : ∀ t < n, (footing t).Fits b start past (gave t) session.owner calls t

namespace SessionState.Grants

/-- One task gets a new footing, and the others rest. -/
theorem move (h : session.Grants b start past gave n loop footing calls)
    (others : OthersRest footing t)
    (lock : (session'.lock.on loop).Serves (Footing.holds ∘ Function.update footing t ft')
      (Footing.awaits ∘ Function.update footing t ft'))
    (backend : session'.backend = b.after (calls'.map Prod.snd) start)
    (own : ft'.Fits b start past (gave t) session'.owner calls' t)
    (inside : ∀ u ≠ t, (footing u).inside? = some true → session'.owner = session.owner)
    (keeps : ∀ u ≠ t, session'.owner = some u →
      session.owner = some u ∧ (b.Lingers start past (gave u) calls u →
        b.Lingers start past (gave u) calls' u)) :
    session'.Grants b start past gave n loop (Function.update footing t ft') calls' := by
  refine ⟨lock, backend, fun u lt => ?_⟩
  by_cases same : u = t
  · subst same
    rwa [Function.update_self]
  · rw [Function.update_of_ne same]
    exact (h.fits u lt).others (others u same) (inside u same) (keeps u same)

theorem lock_relabel (h : session.Grants b start past gave n loop footing calls)
    (holds : ft'.holds = (footing t).holds) (awaits : ft'.awaits = (footing t).awaits) :
    (session.lock.on loop).Serves (Footing.holds ∘ Function.update footing t ft')
      (Footing.awaits ∘ Function.update footing t ft') := by
  rw [Function.comp_update, Function.comp_update, Function.update_eq_self_iff.2 holds,
    Function.update_eq_self_iff.2 awaits]
  exact h.lock

theorem relabel (h : session.Grants b start past gave n loop footing calls)
    (others : OthersRest footing t) (holds : ft'.holds = (footing t).holds)
    (awaits : ft'.awaits = (footing t).awaits)
    (own : ft'.Fits b start past (gave t) session.owner calls t) :
    session.Grants b start past gave n loop (Function.update footing t ft') calls :=
  h.move others (h.lock_relabel holds awaits) h.backend own (fun _ _ _ => rfl) fun _ _ now =>
    ⟨now, id⟩

theorem setLock (h : session.Grants b start past gave n loop footing calls)
    (others : OthersRest footing t)
    {l : Lock} (there : l.loop = loop)
    (lock : l.Serves (Function.update (Footing.holds ∘ footing) t ft'.holds)
      (Function.update (Footing.awaits ∘ footing) t ft'.awaits)) (own :
      ft'.Fits b start past (gave t) session.owner calls t) :
    ({ session with lock := l }).Grants b start past gave n loop
      (Function.update footing t ft') calls := by
  refine h.move others ?_ h.backend own (fun _ _ _ => rfl) fun _ _ now => ⟨now, id⟩
  rw [Lock.on_of_loop there, Function.comp_update, Function.comp_update]
  exact lock

theorem acquire (h : session.Grants b start past gave n loop footing calls)
    (others : OthersRest footing t) (lt : t < n) {owns : Bool} (out : footing t = .outside owns) :
    ({ session with lock := (session.lock.on loop).acquire t }).Grants b start past gave n loop
      (Function.update footing t .queued) calls := by
  have fits := h.fits t lt
  rw [out] at fits
  have holds : (Footing.holds ∘ footing) t = false := by rw [Function.comp_apply, out]; rfl
  have awaits : (Footing.awaits ∘ footing) t = false := by rw [Function.comp_apply, out]; rfl
  refine h.setLock others (by simp) ?_ fits.2
  change Lock.Serves _ (Function.update _ t false) (Function.update _ t true)
  rw [Function.update_eq_self_iff.2 (Eq.symm holds)]
  exact h.lock.acquire holds awaits

theorem granted (h : session.Grants b start past gave n loop footing calls)
    (others : OthersRest footing t) (handed : (session.lock.on loop).holder = some t) :
    session.Grants b start past gave n loop (Function.update footing t .granted) calls := by
  refine h.move others ?_ h.backend trivial (fun _ _ _ => rfl) fun _ _ now => ⟨now, id⟩
  rw [Function.comp_update, Function.comp_update]
  exact h.lock.granted handed

/-- While a task has the lock it does not matter when it gave it back. -/
theorem note (h : session.Grants b start past gave n loop footing calls)
    (holds : (footing t).holds = true) (gave' : List (List (TaskId × Call))) :
    session.Grants b start past (Function.update gave t gave') n loop footing calls := by
  refine ⟨h.lock, h.backend, fun u lt => ?_⟩
  by_cases same : u = t
  · subst same
    exact (h.fits u lt).of_holds holds _
  · rw [Function.update_of_ne same]
    exact h.fits u lt

theorem release (h : session.Grants b start past gave n loop footing calls)
    (others : OthersRest footing t) (lt : t < n)
    (may : footing t = .inside true ∨ footing t = .withdrawn) :
    ({ session with lock := (session.lock.on loop).release }).Grants b start past
      (Function.update gave t (gave t ++ [past ++ calls])) n loop
        (Function.update footing t (.outside false)) calls := by
  have fits := h.fits t lt
  have holds : (footing t).holds = true := by rcases may with e | e <;> rw [e] <;> rfl
  have awaits : (Footing.awaits ∘ footing) t = false := by
    rcases may with e | e <;> rw [Function.comp_apply, e] <;> rfl
  refine (h.note holds _).setLock others (by simp) ?_ ⟨nofun, fun isOwner => ?_⟩
  · change Lock.Serves _ (Function.update _ t false) (Function.update _ t false)
    rw [Function.update_eq_self_iff.2 (Eq.symm awaits)]
    exact h.lock.release holds awaits
  · rw [Function.update_self]
    rcases may with e | e
    · rw [e] at fits
      exact (fits.2 rfl).lingers (gave t)
    · rw [e] at fits
      exact absurd isOwner fits

/-- A task gives up waiting for the lock, or passes it on when it has just been handed it. -/
theorem abandon (h : session.Grants b start past gave n loop footing calls)
    (others : OthersRest footing t) (lt : t < n) (queued : footing t = .queued) :
    ({ session with lock := (session.lock.on loop).abandon t }).Grants b start past gave n loop
      (Function.update footing t (.outside false)) calls := by
  have fits := h.fits t lt
  rw [queued] at fits
  have holds : (Footing.holds ∘ footing) t = false := by rw [Function.comp_apply, queued]; rfl
  by_cases handed : (session.lock.on loop).holder = some t
  · rw [Lock.abandon_of_holder handed]
    refine h.setLock others (by simp) ?_ ⟨nofun, fits⟩
    have given := (h.lock.granted handed).release (Function.update_self t _ _)
      (Function.update_self t _ _)
    rwa [Function.update_idem] at given
  · rw [Lock.abandon_of_other handed]
    refine h.setLock others (Lock.on_loop _ _) ?_ ⟨nofun, fits⟩
    change Lock.Serves _ (Function.update _ t false) (Function.update _ t false)
    rw [Function.update_eq_self_iff.2 (Eq.symm holds)]
    exact h.lock.leave handed

theorem not_inside (h : session.Grants b start past gave n loop footing calls)
    (holds : (footing t).holds = true) (other : u ≠ t) : (footing u).inside? ≠ some true := by
  intro inside
  have hu : (footing u).holds = true := by
    cases e : footing u <;> simp_all [Footing.inside?, Footing.holds]
  exact other (Option.some.inj ((h.lock.held u hu).symm.trans (h.lock.held t holds)))

theorem setOwner (h : session.Grants b start past gave n loop footing calls)
    (others : OthersRest footing t) (holds : (footing t).holds = true) (holds' : ft'.holds = true)
    (own : ft'.Fits b start past (gave t) owner' calls t) (unowned : ∀ u ≠ t, owner' ≠ some u) :
    ({ session with owner := owner' }).Grants b start past gave n loop
      (Function.update footing t ft') calls := by
  have awaits : ft'.awaits = (footing t).awaits := by
    cases e : footing t <;> cases ft' <;> simp_all [Footing.holds, Footing.awaits]
  refine h.move others (h.lock_relabel (holds'.trans holds.symm) awaits) h.backend own
    (fun u other inside => absurd inside (h.not_inside holds other)) fun u other now =>
      absurd now (unowned u other)

/-- A task makes a call; only who owns the scope opens a frame. -/
theorem call (h : session.Grants b start past gave n loop footing calls)
    (others : OthersRest footing t) (c : Call) (first : c = .push → session.owner = some t)
    (lock : session'.lock = session.lock) (same : session'.owner = session.owner)
    (backend : session'.backend = (b.respond c session.backend).2)
    (holds : ft'.holds = (footing t).holds) (awaits : ft'.awaits = (footing t).awaits)
    (own : ft'.Fits b start past (gave t) session.owner (calls ++ [(t, c)]) t) :
    session'.Grants b start past gave n loop (Function.update footing t ft')
      (calls ++ [(t, c)]) := by
  refine h.move others ?_ ?_ (same.symm ▸ own) (fun _ _ _ => same) fun u other now => ?_
  · rw [lock]
    exact h.lock_relabel holds awaits
  · rw [backend, h.backend, List.map_append, Backend.after_append]
    rfl
  · rw [same] at now
    refine ⟨now, fun lingers => lingers.concat (.inr fun push => ?_)⟩
    exact other (Option.some.inj (now.symm.trans (first push)))

end SessionState.Grants

/-! ## The world -/

namespace World

variable {m : Machine σ} {w w' : World σ} {s s' : SessionId}

/-- A session is as it was, and no call was made to it. -/
structure Spares (w w' : World σ) (s : SessionId) : Prop where
  loop : w'.loop = w.loop
  session : ∀ session, w.sessions[s]? = some session → w'.sessions[s]? = some session
  calls : w'.callsOn s = w.callsOn s

theorem Calm.spares (h : w.Calm w') (s : SessionId) : w.Spares w' s :=
  ⟨h.loop, h.sessions s, h.calls s⟩

theorem spares_updateSession (w : World σ) (other : s' ≠ s) (f : SessionState σ → SessionState σ) :
    w.Spares (w.updateSession s' f) s := by
  refine ⟨rfl, fun session there => ?_, rfl⟩
  simp [updateSession, other, there]

theorem spares_setLock (w : World σ) {l : LockName} (other : l ≠ .session s) (lock : Lock) :
    w.Spares (w.setLock l lock) s := by
  cases l with
  | provider => exact ⟨rfl, fun _ there => there, rfl⟩
  | session s' => exact w.spares_updateSession (fun same => other (congrArg _ same)) _

theorem spares_call (w : World σ) (b : Backend σ) (t : TaskId) (c : Call) (other : s' ≠ s) :
    w.Spares (w.call b t s' c).2 s := by
  cases there : w.sessions[s']? with
  | none =>
    have nothing : (w.call b t s' c).2 = w := by simp [call, backend?, there]
    rw [nothing]
    exact (Calm.refl w).spares s
  | some session =>
    have r := revised_call b t c there
    exact ⟨r.loop, fun session there' => (r.others s (Ne.symm other)).trans there',
      r.calls s (Ne.symm other)⟩

theorem spares_startCheck (w : World σ) (b : Backend σ) (t : TaskId) (τ : Timeout)
    (other : s' ≠ s) :
    w.Spares (w.startCheck b t s' τ).2 s := by
  have counted := w.spares_updateSession other fun session =>
    { session with checks := session.checks + 1 }
  have called := spares_call (w.updateSession s' fun session =>
    { session with checks := session.checks + 1 }) b t (.check τ) other
  exact ⟨called.loop.trans counted.loop,
    fun session there => called.session session (counted.session session there),
    called.calls.trans counted.calls⟩

theorem spares_startCreation (w : World σ) (m : Machine σ) (s : SessionId) :
    w.Spares (w.startCreation m).2 s := by
  unfold startCreation
  dsimp only
  split
  · next outcome e =>
    have ended := (calm_deliver { w with creations := w.creations ++ [none] } w.creations.length
      outcome).spares s
    exact ⟨ended.loop, ended.session, ended.calls⟩
  · exact ⟨rfl, fun _ there => there, rfl⟩

end World

theorem Request.Avoids.spares {s : SessionId} {r : Request} (h : r.Avoids s) (m : Machine σ)
    (t : TaskId) (w : World σ) : w.Spares (w.request m t r).2 s := by
  cases r with
  | acquire l | release l => exact w.spares_setLock h _
  | claim s' | disclaim s' => exact w.spares_updateSession h _
  | push s' | pop s' | add s' a => exact w.spares_call m.backend t _ h
  | startCheck s' τ => exact w.spares_startCheck m.backend t τ h
  | startCreation => exact w.spares_startCreation m s
  | owns | awaitCheck | shared | awaitCreation | install | forget =>
    exact ⟨rfl, fun _ there => there, rfl⟩

theorem Request.Avoids.spares_cancelled {s : SessionId} {r : Request} (h : r.Avoids s) {t : TaskId}
    {w w' : World σ} {response : r.Response} (e : w.cancelled? t r = some (response, w')) :
    w.Spares w' s := by
  cases r with
  | acquire l =>
    obtain ⟨-, rfl⟩ := Prod.mk.inj (Option.some.inj e)
    exact w.spares_setLock h _
  | awaitCheck | awaitCreation =>
    obtain ⟨-, rfl⟩ := Prod.mk.inj (Option.some.inj e)
    exact ⟨rfl, fun _ there => there, rfl⟩
  | _ => cases e

namespace World

variable {m : Machine σ} {w w' : World σ} {s s' : SessionId}

/-- A session of the world fits the footings of tasks, and some calls were made to it beyond those
of the past. -/
def Grants (b : Backend σ) (start : σ) (past : List (TaskId × Call))
    (gave : TaskId → List (List (TaskId × Call))) (n : Nat) (s : SessionId) (w : World σ)
    (footing : TaskId → Footing) : Prop :=
  ∃ session calls, w.sessions[s]? = some session ∧ w.callsOn s = past ++ calls ∧
    session.Grants b start past gave n w.loop footing calls

namespace Grants

theorem spared (h : w.Grants b start past gave n s footing) (spares : w.Spares w' s) :
    w'.Grants b start past gave n s footing := by
  obtain ⟨session, calls, there, calls_eq, grants⟩ := h
  exact ⟨session, calls, spares.session session there, spares.calls.trans calls_eq,
    spares.loop ▸ grants⟩

theorem rest (h : w.Grants b start past gave n s footing) (others : OthersRest footing t)
    (lt : t < n) :
    w.Grants b start past gave n s (Function.update footing t (footing t).rested) := by
  obtain ⟨session, calls, there, calls_eq, grants⟩ := h
  exact ⟨session, calls, there, calls_eq, grants.relabel others (by simp) (by simp)
    (grants.fits t lt).rested⟩

theorem granted (h : w.Grants b start past gave n s footing) (others : OthersRest footing t)
    (handed : (w.lock (.session s)).holder = some t) :
    w.Grants b start past gave n s (Function.update footing t .granted) := by
  obtain ⟨session, calls, there, calls_eq, grants⟩ := h
  rw [lock_session there] at handed
  exact ⟨session, calls, there, calls_eq, grants.granted others handed⟩

theorem abandon (h : w.Grants b start past gave n s footing) (others : OthersRest footing t)
    (lt : t < n) (queued : footing t = .queued) :
    (w.setLock (.session s) ((w.lock (.session s)).abandon t)).Grants b start past gave n s
      (Function.update footing t (.outside false)) := by
  obtain ⟨session, calls, there, calls_eq, grants⟩ := h
  rw [lock_session there]
  exact ⟨_, calls, (revised_updateSession there _).session, calls_eq,
    grants.abandon others lt queued⟩

theorem acquire (h : w.Grants b start past gave n s footing) (others : OthersRest footing t)
    (lt : t < n) {owns : Bool} (out : footing t = .outside owns) :
    (w.setLock (.session s) ((w.lock (.session s)).acquire t)).Grants b start past gave n s
      (Function.update footing t .queued) := by
  obtain ⟨session, calls, there, calls_eq, grants⟩ := h
  rw [lock_session there]
  exact ⟨_, calls, (revised_updateSession there _).session, calls_eq, grants.acquire others lt out⟩

theorem call (h : w.Grants b start past gave n s footing) (others : OthersRest footing t)
    (lt : t < n) (c : Call) (first : c = .push → (footing t).owns = true)
    (holds : ft'.holds = (footing t).holds) (awaits : ft'.awaits = (footing t).awaits)
    (own : ∀ {session calls}, w.sessions[s]? = some session →
      session.backend = b.after (calls.map Prod.snd) start →
      (footing t).Fits b start past (gave t) session.owner calls t →
      ft'.Fits b start past (gave t) session.owner (calls ++ [(t, c)]) t) :
    (w.call b t s c).2.Grants b start past gave n s (Function.update footing t ft') := by
  obtain ⟨session, calls, there, calls_eq, grants⟩ := h
  have fits := grants.fits t lt
  have r := revised_call b t c there
  refine ⟨_, calls ++ [(t, c)], r.session, ?_, ?_⟩
  · rw [callsOn_called (by rw [call_eq b t c there]), if_pos rfl, calls_eq, List.append_assoc]
  · rw [r.loop]
    exact grants.call others c (fun push => fits.owner_eq (first push)) rfl rfl rfl holds awaits
      (own there grants.backend fits)

end Grants

end World

/-! ## Requests -/

/-- What a task waits with: for the session's lock, or for something that has nothing to do with the
session. -/
inductive Request.Waits (s : SessionId) :
    (r : Request) → Footing → (r.Response → Footing → Prop) → Prop where
  | queued {K} : K (some ()) .granted → K none (.outside false) →
      Waits s (.acquire (.session s)) .queued K
  | elsewhere {r ft K} : r.Avoids s → ft.rested = ft → (∀ response, K response ft) → Waits s r ft K

/-- All calls to a session so far, if the request gives back its lock. -/
def Request.givesBack? (s : SessionId) (w : World σ) : Request → Option (List (TaskId × Call))
  | .release (.session s') => if s' = s then some (w.callsOn s) else none
  | _ => none

theorem Request.eq_release_of_givesBack? {s : SessionId} {w : World σ} {r : Request}
    {calls : List (TaskId × Call)} (h : r.givesBack? s w = some calls) :
    r = .release (.session s) ∧ w.callsOn s = calls := by
  unfold givesBack? at h
  split at h
  · split at h
    · next same => exact ⟨by rw [same], Option.some.inj h⟩
    · cases h
  · cases h

/-- A request that abides by the rules and gives nothing back leads to a footing that the session
fits, and either is responded to or leaves the task waiting. -/
theorem World.Grants.request_quiet {m : Machine σ} {w : World σ} {s : SessionId}
    (h : w.Grants m.backend start past gave n s footing) (others : OthersRest footing t)
    (lt : t < n) {r : Request} {K : r.Response → Footing → Prop}
    (follows : r.Follows s (footing t) K) (quiet : r.givesBack? s w = none) :
    ∃ ft', (w.request m t r).2.Grants m.backend start past gave n s
        (Function.update footing t ft') ∧
      match (w.request m t r).1 with
      | some response => K response ft'
      | none => r.Waits s ft' K := by
  generalize e : footing t = ft at follows
  cases follows with
  | elsewhere avoids hK =>
    refine ⟨ft.rested, e ▸ (h.rest others lt).spared (avoids.spares m t w), ?_⟩
    cases (w.request m t r).1 with
    | some response => exact hK response
    | none => exact .elsewhere avoids ft.rested_rested hK
  | acquire granted cancelled =>
    have queued := h.acquire others lt e
    by_cases handed :
      ((w.setLock (.session s) ((w.lock (.session s)).acquire t)).lock (.session s)).holder = some t
    · have noticed := queued.granted (others.update _) handed
      have responded : (w.request m t (.acquire (.session s))).1 = some (some ()) := if_pos handed
      rw [Function.update_idem] at noticed
      exact ⟨_, noticed, responded ▸ granted⟩
    · have stays : (w.request m t (.acquire (.session s))).1 = none := if_neg handed
      exact ⟨_, queued, stays ▸ .queued granted cancelled⟩
  | claim hK =>
    obtain ⟨session, calls, there, calls_eq, grants⟩ := h
    refine ⟨_, ⟨_, calls, (World.revised_updateSession there _).session, calls_eq, ?_⟩, hK⟩
    exact grants.setOwner others (by rw [e]; rfl) rfl ⟨rfl, nofun⟩ fun u other now =>
      other (Option.some.inj now).symm
  | disclaim hK =>
    obtain ⟨session, calls, there, calls_eq, grants⟩ := h
    refine ⟨_, ⟨_, calls, (World.revised_updateSession there _).session, calls_eq, ?_⟩, hK⟩
    exact grants.setOwner others (by rw [e]; rfl) rfl nofun nofun
  | release => simp [Request.givesBack?] at quiet
  | owns hK =>
    obtain ⟨session, calls, there, calls_eq, grants⟩ := h
    have fits : (ft.told (w.owner? s == some t)).Fits m.backend start past (gave t)
        session.owner calls t := by
      rw [World.owner?_eq there]
      exact e ▸ (grants.fits t lt).told
    exact ⟨_, ⟨session, calls, there, calls_eq,
      grants.relabel others (by simp [e]) (by simp [e]) fits⟩, hK _⟩
  | push owns hK =>
    refine ⟨_, h.call others lt .push (fun _ => e ▸ owns) (by simp [e]) (by simp [e])
      fun there backend fits => ?_, hK _⟩
    refine (e ▸ fits).replied fun f failed => ⟨f, ?_⟩
    change (w.call m.backend t s .push).1 = .error f at failed
    rwa [World.call_eq m.backend t .push there, backend] at failed
  | pop hK =>
    refine ⟨_, h.call others lt .pop nofun (by simp [e]) (by simp [e]) fun there backend fits => ?_,
      hK _⟩
    refine (e ▸ fits).replied fun f failed => ⟨f, ?_⟩
    change (w.call m.backend t s .pop).1 = .error f at failed
    rwa [World.call_eq m.backend t .pop there, backend] at failed
  | @add a _ _ hK =>
    exact ⟨_, h.call others lt (.add a) nofun (by simp) (by simp) fun _ _ fits => fits.called _,
      e ▸ hK _⟩
  | @startCheck τ _ _ hK =>
    have counted : (w.updateSession s fun session =>
      { session with checks := session.checks + 1 }).Grants m.backend
        start past gave n s footing := by
      obtain ⟨session, calls, there, calls_eq, grants⟩ := h
      exact ⟨_, calls, (World.revised_updateSession there _).session, calls_eq, grants.lock,
        grants.backend, grants.fits⟩
    have called := counted.call others lt (.check τ) nofun (by simp) (by simp) fun _ _ fits =>
      fits.called _
    exact ⟨_, called.spared ⟨rfl, fun _ there => there, rfl⟩, e ▸ hK _⟩

/-- The same for every request; what is given back is noted. -/
theorem World.Grants.request {m : Machine σ} {w : World σ} {s : SessionId}
    (h : w.Grants m.backend start past gave n s footing) (others : OthersRest footing t)
    (lt : t < n) {r : Request} {K : r.Response → Footing → Prop}
    (follows : r.Follows s (footing t) K) :
    ∃ ft', (w.request m t r).2.Grants m.backend start past
        (Function.update gave t (gave t ++ (r.givesBack? s w).toList)) n s
          (Function.update footing t ft') ∧
      match (w.request m t r).1 with
      | some response => K response ft'
      | none => r.Waits s ft' K := by
  cases gives : r.givesBack? s w with
  | none =>
    rw [Option.toList_none, List.append_nil, Function.update_eq_self]
    exact h.request_quiet others lt follows gives
  | some calls =>
    obtain ⟨rfl, rfl⟩ := Request.eq_release_of_givesBack? gives
    generalize e : footing t = ft at follows
    cases follows with
    | elsewhere avoids => exact absurd rfl avoids
    | release may hK =>
      obtain ⟨session, calls, there, calls_eq, grants⟩ := h
      refine ⟨_, ⟨_, calls, (World.revised_updateSession there _).session, calls_eq, ?_⟩, hK⟩
      rw [World.lock_session there, calls_eq]
      exact grants.release others lt (e ▸ may)

end RecordAudit
