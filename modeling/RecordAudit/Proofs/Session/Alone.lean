import RecordAudit.Proofs.Session.ExclusiveScopes
import RecordAudit.Proofs.Session.Settling

/-!
# A task alone with a session

What a single task says to the backend of a session, call by call, and what comes of it. Other than
in the logic for tasks among others, the backend is a given one in a given state, so that its
replies are known.
-/

namespace RecordAudit

open TaskM

variable {σ α β : Type} {m : Surroundings σ} {t : TaskId} {s : SessionId} {w w' w'' : World σ}

def checksIn (calls : List Call) : Nat := calls.countP fun c => c matches .check _

@[simp] theorem checksIn_append (a b : List Call) : checksIn (a ++ b) = checksIn a + checksIn b :=
  List.countP_append

/-- Who has a session's lock, and who owns its scope. -/
structure Hands where
  holder : Option TaskId
  owner : Option TaskId

namespace Hands

def free : Hands := ⟨none, none⟩

def inside (t : TaskId) : Hands := ⟨some t, some t⟩

end Hands

namespace World

/-! ## While checks and creations end -/

/-- Checks and creations may have ended, and sessions may have been added; no call was made. -/
structure Calm (w w' : World σ) : Prop where
  loop : w'.loop = w.loop
  shared : w'.shared = w.shared
  sessions : ∀ (s : SessionId) (session : SessionState σ), w.sessions[s]? = some session →
    w'.sessions[s]? = some session
  calls : ∀ s, w'.callsOn s = w.callsOn s
  checks : ∀ (c : CheckId) (check : RunningCheck), w.checks[c]? = some check →
    ∃ check' : RunningCheck, w'.checks[c]? = some check' ∧ check'.answer = check.answer

theorem Calm.refl (w : World σ) : w.Calm w :=
  ⟨rfl, rfl, fun _ _ h => h, fun _ => rfl, fun _ check h => ⟨check, h, rfl⟩⟩

theorem Calm.trans (first : w.Calm w') (second : w'.Calm w'') : w.Calm w'' where
  loop := second.loop.trans first.loop
  shared := second.shared.trans first.shared
  sessions s session h := second.sessions s session (first.sessions s session h)
  calls s := (second.calls s).trans (first.calls s)
  checks c check h := by
    obtain ⟨check', there, same⟩ := first.checks c check h
    obtain ⟨check'', there', same'⟩ := second.checks c check' there
    exact ⟨check'', there', same'.trans same⟩

theorem Calm.length_le (calm : w.Calm w') : w.sessions.length ≤ w'.sessions.length := by
  refine Nat.le_of_not_lt fun gone => ?_
  obtain ⟨session, there⟩ := exists_session gone
  exact absurd (lt_of_session (calm.sessions _ session there)) (Nat.lt_irrefl _)

theorem calm_deliver (w : World σ) (c : CreationId) (outcome : Except Fault σ) :
    w.Calm (w.deliver c outcome) := by
  refine w.deliver_cases c outcome (fun _ => .refl w) (fun _ _ _ => ?_) fun _ _ _ => ?_
  · exact ⟨rfl, rfl, fun _ _ h => h, fun _ => rfl, fun _ check h => ⟨check, h, rfl⟩⟩
  · refine ⟨rfl, rfl, fun s session h => ?_, fun _ => rfl, fun _ check h => ⟨check, h, rfl⟩⟩
    exact (List.getElem?_append_left (lt_of_session h)).trans h

theorem calm_endCheck (w : World σ) (c : CheckId) : w.Calm (w.endCheck c) := by
  refine w.endCheck_cases c (fun _ => .refl w) fun check there _ => ?_
  refine ⟨rfl, rfl, fun _ _ h => h, fun s => callsOn_ended rfl s, fun c' check' h => ?_⟩
  by_cases same : c = c'
  · subst same
    obtain rfl := Option.some.inj (there.symm.trans h)
    exact ⟨_, List.getElem?_set_self (lt_of_check there), rfl⟩
  · exact ⟨check', (List.getElem?_set_ne same).trans h, rfl⟩

theorem calm_foldl_deliver (m : Surroundings σ) (cs : List CreationId) (w : World σ) :
    w.Calm (cs.foldl (fun w c => w.deliver c (m.deliver c)) w) := by
  induction cs generalizing w with
  | nil => exact .refl w
  | cons c rest ih => exact (calm_deliver w c _).trans (ih _)

theorem calm_foldl_endCheck (cs : List CheckId) (w : World σ) : w.Calm (cs.foldl endCheck w) := by
  induction cs generalizing w with
  | nil => exact .refl w
  | cons c rest ih => exact (calm_endCheck w c).trans (ih _)

theorem calm_settle (m : Surroundings σ) (w : World σ) : w.Calm (w.settle m) :=
  (calm_foldl_deliver m _ w).trans (calm_foldl_endCheck _ _)

/-- Settling ends every check that was started, with the answer that it has. -/
theorem settle_endsChecks {c : CheckId} {check : RunningCheck} (there : w.checks[c]? = some check) :
    ∃ check' : RunningCheck, (w.settle m).checks[c]? = some check' ∧ check'.answer = check.answer ∧
      check'.ended = true := by
  obtain ⟨check', there', same⟩ := (calm_settle m w).checks c check there
  refine ⟨check', there', same, ?_⟩
  cases running : check'.ended with
  | true => rfl
  | false =>
    have still : (w.settle m).checks[c]?.map (·.ended) = some false := by
      rw [there', Option.map_some, running]
    rw [settle, checks_foldl_endCheck, mem_openChecks] at still
    exact absurd still.1 still.2

/-! ## Calls of one task -/

/-- A session is there, on a backend in a state, with a number of checks started, in some hands.
Nobody waits for its lock. -/
def Serves (w : World σ) (s : SessionId) (hands : Hands) (state : σ) (checks : Nat) : Prop :=
  ∃ lock, w.sessions[s]? = some ⟨state, checks, lock, hands.owner⟩ ∧
    lock.on w.loop = ⟨w.loop, hands.holder, []⟩

/-- A task has made calls to a session, and no other calls were made. -/
structure Told (w w' : World σ) (t : TaskId) (s : SessionId) (calls : List Call) : Prop where
  own : w'.callsOn s = w.callsOn s ++ madeBy t calls
  others : ∀ s' ≠ s, w'.callsOn s' = w.callsOn s'
  shared : w'.shared = w.shared

theorem Told.trans {first second : List Call} (h : w.Told w' t s first)
    (h' : w'.Told w'' t s second) :
    w.Told w'' t s (first ++ second) where
  own := by rw [h'.own, h.own, madeBy_append, List.append_assoc]
  others s' other := (h'.others s' other).trans (h.others s' other)
  shared := h'.shared.trans h.shared

theorem Calm.serves {hands : Hands} {state : σ} {checks : Nat} (calm : w.Calm w')
    (serves : w.Serves s hands state checks) : w'.Serves s hands state checks := by
  obtain ⟨lock, there, used⟩ := serves
  exact ⟨lock, calm.sessions s _ there, by rw [calm.loop, used]⟩

theorem Calm.told (calm : w.Calm w') : w.Told w' t s [] :=
  ⟨by simpa using calm.calls s, fun s' _ => calm.calls s', calm.shared⟩

end World

/-! ## Programs -/

theorem World.runAlone_bind (p : Program α) (f : α → Program β) (w : World σ) :
    w.runAlone m t (p >>= f) =
      match w.runAlone m t p with
      | (some a, w') => w'.runAlone m t (f a)
      | (none, w') => (none, w') := by
  induction p generalizing w with
  | done a => rfl
  | ask r next ih =>
    rw [Program.ask_bind, runAlone, runAlone]
    split
    · exact ih _ _
    · dsimp only
      split
      · exact ih _ _
      · rfl

theorem World.runAlone_ask_bind {r : Request} {response : r.Response} (f : r.Response → TaskM α)
    (responded : w.request m.toMachine t r = (some response, w')) :
    w.runAlone m t (ask r >>= f).run = w'.runAlone m t (f response).run := by
  have asked : (ask r >>= f).run = .ask r fun response => (f response).run := rfl
  rw [asked, World.runAlone, responded]

/-- A request that waits until everything that was started has ended. -/
theorem World.runAlone_ask_bind_settled {r : Request} {response : r.Response}
    (f : r.Response → TaskM α) (waits : w.request m.toMachine t r = (none, w'))
    (responded : (w'.settle m).response? t r = some response) :
    w.runAlone m t (ask r >>= f).run = (w'.settle m).runAlone m t (f response).run := by
  have asked : (ask r >>= f).run = .ask r fun response => (f response).run := rfl
  rw [asked, World.runAlone, waits]
  dsimp only
  rw [responded]

/-- Alone with a session, the program makes these calls and comes to this result. The session's lock
and scope go from some hands into others. -/
def Program.Tells (m : Surroundings σ) (t : TaskId) (s : SessionId) (hands hands' : Hands)
    (p : Program α) (state : σ) (calls : List Call) (result : α) : Prop :=
  ∀ (w : World σ) checks, w.Serves s hands state checks →
    ∃ w', w.runAlone m t p = (some result, w') ∧
      w'.Serves s hands' (m.backend.after calls state) (checks + checksIn calls) ∧
      w.Told w' t s calls

namespace Program.Tells

variable {hands hands' hands'' : Hands} {p : Program α} {state : σ} {calls calls' : List Call}
  {a : α} {b : β}

theorem done : (Program.done a).Tells m t s hands hands state [] a :=
  fun w _ serves => ⟨w, rfl, serves, (World.Calm.refl w).told⟩

theorem bind {f : α → Program β} (first : p.Tells m t s hands hands' state calls a)
    (second : (f a).Tells m t s hands' hands'' (m.backend.after calls state) calls' b) :
    (p >>= f).Tells m t s hands hands'' state (calls ++ calls') b := by
  intro w checks serves
  obtain ⟨w', ran, serves', told⟩ := first w checks serves
  obtain ⟨w'', ran', serves'', told'⟩ := second w' _ serves'
  refine ⟨w'', ?_, ?_, told.trans told'⟩
  · rw [World.runAlone_bind, ran]
    exact ran'
  · rwa [Backend.after_append, checksIn_append, ← Nat.add_assoc]

theorem ask {r : Request} {response : r.Response}
    (now : ∀ (w : World σ) checks, w.Serves s hands state checks → ∃ w',
      w.request m.toMachine t r = (some response, w') ∧
      w'.Serves s hands' (m.backend.after calls state) (checks + checksIn calls) ∧
      w.Told w' t s calls) :
    (TaskM.ask r).run.Tells m t s hands hands' state calls (.ok response) := by
  intro w checks serves
  obtain ⟨w', responded, after⟩ := now w checks serves
  have asked : (TaskM.ask r).run = .ask r fun response => .done (.ok response) := rfl
  refine ⟨w', ?_, after⟩
  rw [asked, World.runAlone, responded]
  rfl

end Program.Tells

namespace TaskM

variable {hands hands' hands'' : Hands} {state : σ} {calls calls' : List Call}

/-- What a task does alone, which may also end with an interrupt. -/
abbrev Tells (m : Surroundings σ) (t : TaskId) (s : SessionId) (hands hands' : Hands) (p : TaskM α)
    (state : σ) (calls : List Call) (result : Except Interrupt α) : Prop :=
  Program.Tells m t s hands hands' p.run state calls result

namespace Tells

variable {p : TaskM α} {f : α → TaskM β} {a : α} {e : Interrupt} {result : Except Interrupt β}

theorem ofExcept (x : Except Fault α) :
    (ofExcept x).Tells m t s hands hands state [] (x.mapError .fault) := by
  cases x with
  | ok a => exact .done
  | error f => exact .done

theorem bind (first : p.Tells m t s hands hands' state calls (.ok a))
    (second : (f a).Tells m t s hands' hands'' (m.backend.after calls state) calls' result) :
    (p >>= f).Tells m t s hands hands'' state (calls ++ calls') result := by
  unfold Tells
  rw [ExceptT.run_bind]
  exact Program.Tells.bind first second

theorem bind_error (first : p.Tells m t s hands hands' state calls (.error e)) :
    (p >>= f).Tells m t s hands hands' state calls (.error e) := by
  have stopped : (Program.done (Except.error e : Except Interrupt β)).Tells m t s hands' hands'
      (m.backend.after calls state) [] (.error e) := .done
  unfold Tells
  rw [ExceptT.run_bind, ← List.append_nil calls]
  exact Program.Tells.bind first stopped

theorem map (first : p.Tells m t s hands hands' state calls (.ok a)) (g : α → β) :
    (do return g (← p)).Tells m t s hands hands' state calls (.ok (g a)) := by
  have given : (pure (g a) : TaskM β).Tells m t s hands' hands' (m.backend.after calls state) []
    (.ok (g a)) := .done
  rw [← List.append_nil calls]
  exact bind first given

theorem ensuring {conclusion : TaskM Unit} {result : Except Interrupt α}
    (body : p.Tells m t s hands hands' state calls result)
    (concluded : conclusion.Tells m t s hands' hands'' (m.backend.after calls state)
      calls' (.ok ())) :
    (ensuring p conclusion).Tells m t s hands hands'' state (calls ++ calls') result := by
  have given : (Program.done result).Tells m t s hands'' hands''
      (m.backend.after calls' (m.backend.after calls state)) [] result := .done
  rw [← List.append_nil calls']
  exact Program.Tells.bind body (Program.Tells.bind concluded given)

theorem orElse (amends : TaskM Unit) (body : p.Tells m t s hands hands' state calls (.ok a)) :
    (orElse p amends).Tells m t s hands hands' state calls (.ok a) := by
  have given : (Program.done (Except.ok a : Except Interrupt α)).Tells m t s hands' hands'
      (m.backend.after calls state) [] (.ok a) := .done
  rw [← List.append_nil calls]
  exact Program.Tells.bind body given

theorem recover_ok (handler : Fault → α) (body : p.Tells m t s hands hands' state calls (.ok a)) :
    (recover p handler).Tells m t s hands hands' state calls (.ok a) := by
  have given : (Program.done (Except.ok a : Except Interrupt α)).Tells m t s hands' hands'
      (m.backend.after calls state) [] (.ok a) := .done
  rw [← List.append_nil calls]
  exact Program.Tells.bind body given

theorem recover_fault (handler : Fault → α) {fault : Fault}
    (body : p.Tells m t s hands hands' state calls (.error (.fault fault))) :
    (recover p handler).Tells m t s hands hands' state calls (.ok (handler fault)) := by
  have given : (Program.done (Except.ok (handler fault) : Except Interrupt α)).Tells m t s hands'
      hands' (m.backend.after calls state) [] (.ok (handler fault)) := .done
  rw [← List.append_nil calls]
  exact Program.Tells.bind body given

end Tells

end TaskM

/-! ## Operations of sessions -/

namespace Session

variable {hands hands' : Hands} {state : σ} {calls : List Call} {a : Operand}

/-- A request that is a call other than a check, and what it is replied. -/
theorem call_tells {c : Call} (noCheck : checksIn [c] = 0) {p : TaskM (Except Fault c.Reply)}
    (calls : ∀ w : World σ,
      w.runAlone m t p.run = (some (.ok (w.call m.backend t s c).1), (w.call m.backend t s c).2)) :
    (do TaskM.ofExcept (← p)).Tells m t s hands hands state [c]
      ((m.backend.respond c state).1.mapError .fault) := by
  have asked : p.Tells m t s hands hands state [c] (.ok (m.backend.respond c state).1) := by
    rintro w checks ⟨lock, there, used⟩
    have revised := World.revised_call m.backend t c there
    have called : (w.call m.backend t s c).2.history = .called t s c :: w.history := by
      rw [World.call_eq m.backend t c there]
    have reply : (w.call m.backend t s c).1 = (m.backend.respond c state).1 := by
      rw [World.call_eq m.backend t c there]
    refine ⟨_, by rw [← reply, calls], ⟨lock, ?_, ?_⟩, ?_, revised.calls, revised.shared⟩
    · rw [revised.session, noCheck]
      rfl
    · rw [revised.loop, used]
    · rw [World.callsOn_called called, if_pos rfl]
      rfl
  have told := asked.bind (f := fun reply => TaskM.ofExcept reply) (.ofExcept _)
  rwa [List.append_nil] at told

theorem push_tells :
    (push s).Tells m t s hands hands state [.push]
      ((m.backend.respond .push state).1.mapError .fault) :=
  call_tells (c := .push) rfl (p := ask (.push s)) fun _ => rfl

theorem pop_tells :
    (pop s).Tells m t s hands hands state [.pop]
      ((m.backend.respond .pop state).1.mapError .fault) :=
  call_tells (c := .pop) rfl (p := ask (.pop s)) fun _ => rfl

theorem requireScope_tells :
    (requireScope s).Tells m t s (.inside t) (.inside t) state [] (.ok ()) := by
  have asked : (ask (.owns s)).Tells m t s (.inside t) (.inside t) state [] (.ok true) :=
    .ask fun w checks ⟨lock, there, used⟩ => by
      refine ⟨w, ?_, ⟨lock, there, used⟩, (World.Calm.refl w).told⟩
      simp [World.request, World.owner?_eq there, Hands.inside]
  exact asked.bind .done

theorem add_tells : (add s a).Tells m t s (.inside t) (.inside t) state [.add a]
    ((m.backend.respond (.add a) state).1.mapError .fault) :=
  requireScope_tells.bind (call_tells (c := .add a) rfl (p := ask (.add s a)) fun _ => rfl)

/-- A check is a call, and its answer comes when it has ended. -/
theorem check_tells {τ : Timeout} : (check s τ).Tells m t s (.inside t) (.inside t) state [.check τ]
    ((m.backend.respond (.check τ) state).1.mapError .fault) := by
  refine requireScope_tells.bind fun w checks ⟨lock, there, used⟩ => ?_
  have revised := World.revised_startCheck m.backend t τ there
  have started := World.startCheck_eq m.backend t τ there
  have called : (w.startCheck m.backend t s τ).2.history = .called t s (.check τ) :: w.history := by
    rw [started]
  have running : (w.startCheck m.backend t s τ).2.checks[w.checks.length]? =
      some ⟨s, (m.backend.respond (.check τ) state).1, false⟩ := by
    rw [started]
    simp
  have told : w.Told (w.startCheck m.backend t s τ).2 t s [.check τ] := by
    refine ⟨?_, revised.calls, revised.shared⟩
    rw [World.callsOn_called called, if_pos rfl]
    rfl
  obtain ⟨check, there', same, ended⟩ := World.settle_endsChecks (m := m) running
  have calm := World.calm_settle m (w.startCheck m.backend t s τ).2
  refine ⟨(w.startCheck m.backend t s τ).2.settle m, ?_, calm.serves ⟨lock, ?_, ?_⟩,
    told.trans calm.told⟩
  · have asked : w.request m.toMachine t (.startCheck s τ) =
        (some w.checks.length, (w.startCheck m.backend t s τ).2) := by
      rw [World.request, started]
    have waits : (w.startCheck m.backend t s τ).2.request m.toMachine t
        (.awaitCheck w.checks.length) = (none, (w.startCheck m.backend t s τ).2) := by
      simp only [World.request, World.response?, running, Bool.false_eq_true, if_false]
    have answered : ((w.startCheck m.backend t s τ).2.settle m).response? t
        (.awaitCheck w.checks.length) = some (some (m.backend.respond (.check τ) state).1) := by
      simp only [World.response?, there', ended, if_true, same]
    rw [World.runAlone_ask_bind _ asked, World.runAlone_ask_bind_settled _ waits answered]
    cases (m.backend.respond (.check τ) state).1 <;> rfl
  · rw [revised.session]
    rfl
  · rw [revised.loop, used]

theorem frame_tells {body : TaskM α} {calls : List Call} {result : Except Interrupt α}
    (pushed : (m.backend.respond .push state).1 = .ok ())
    (told : body.Tells m t s (.inside t) (.inside t) (m.backend.after [.push] state) calls result)
    (popped : (m.backend.respond .pop (m.backend.after (.push :: calls) state)).1 = .ok ()) :
    (frame s body).Tells m t s (.inside t) (.inside t) state
      (.push :: (calls ++ [.pop])) result := by
  have opened : (openFrame s).Tells m t s (.inside t) (.inside t) state [.push] (.ok ()) := by
    have told : (push s).Tells m t s (.inside t) (.inside t) state [.push] _ := push_tells
    rw [pushed] at told
    exact requireScope_tells.bind told
  have closed : (pop s).Tells m t s (.inside t) (.inside t) (m.backend.after (.push :: calls) state)
      [.pop] (.ok ()) := by
    have told : (pop s).Tells m t s (.inside t) (.inside t)
        (m.backend.after (.push :: calls) state) [.pop] _ :=
      pop_tells
    rwa [popped] at told
  exact opened.bind (told.ensuring closed)

/-! ## Scopes -/

theorem hand_tells {r : Request} {response : r.Response}
    (f : World σ → SessionState σ → SessionState σ)
    (handing : ∀ (w : World σ) checks lock,
      w.sessions[s]? = some ⟨state, checks, lock, hands.owner⟩ →
        lock.on w.loop = ⟨w.loop, hands.holder, []⟩ →
      w.request m.toMachine t r = (some response, w.updateSession s (f w)) ∧
        ∃ lock', lock'.on w.loop = ⟨w.loop, hands'.holder, []⟩ ∧
          f w ⟨state, checks, lock, hands.owner⟩ = ⟨state, checks, lock', hands'.owner⟩) :
    (ask r).Tells m t s hands hands' state [] (.ok response) := by
  refine .ask fun w checks ⟨lock, there, used⟩ => ?_
  have revised := World.revised_updateSession there (f w)
  obtain ⟨responded, lock', used', same⟩ := handing w checks lock there used
  refine ⟨_, responded, ⟨lock', ?_, used'⟩, ?_, revised.calls, rfl⟩
  · rw [revised.session, same]
    rfl
  · exact (List.append_nil _).symm

theorem acquire_tells :
    (ask (.acquire (.session s))).Tells m t s .free ⟨some t, none⟩ state [] (.ok (some ())) := by
  refine hand_tells (fun w session => { session with lock := ⟨w.loop, some t, []⟩ })
    fun w checks lock there used => ?_
  have locked : w.lock (.session s) = ⟨w.loop, none, []⟩ := (World.lock_session there).trans used
  have taken : (w.updateSession s fun session => { session with lock := ⟨w.loop, some t, []⟩ }).lock
      (.session s) = ⟨w.loop, some t, []⟩ := by
    rw [World.lock_session (World.revised_updateSession there _).session]
    exact if_pos rfl
  refine ⟨?_, ⟨w.loop, some t, []⟩, if_pos rfl, rfl⟩
  simp only [World.request, locked, Lock.acquire, World.setLock, World.response?, taken, if_true]

theorem claim_tells : (ask (.claim s)).Tells m t s ⟨some t, none⟩ (.inside t) state [] (.ok ()) :=
  hand_tells (fun _ session => { session with owner := some t }) fun _ _ lock _ used =>
    ⟨rfl, lock, used, rfl⟩

theorem disclaim_tells :
    (ask (.disclaim s)).Tells m t s (.inside t) ⟨some t, none⟩ state [] (.ok ()) :=
  hand_tells (fun _ session => { session with owner := none }) fun _ _ lock _ used =>
    ⟨rfl, lock, used, rfl⟩

theorem release_tells :
    (ask (.release (.session s))).Tells m t s ⟨some t, none⟩ .free state [] (.ok ()) := by
  refine hand_tells (fun w session => { session with lock := ⟨w.loop, none, []⟩ })
    fun w checks lock there used => ?_
  have locked : w.lock (.session s) = ⟨w.loop, some t, []⟩ := (World.lock_session there).trans used
  refine ⟨?_, ⟨w.loop, none, []⟩, if_pos rfl, rfl⟩
  simp only [World.request, locked, Lock.release, World.setLock]
  rfl

theorem enter_tells (pushed : (m.backend.respond .push state).1 = .ok ()) :
    (enter s).Tells m t s .free (.inside t) state [.push] (.ok ()) := by
  have acquired : (do answered (← ask (.acquire (.session s))) : TaskM Unit).Tells m t s .free
      ⟨some t, none⟩ state [] (.ok ()) := acquire_tells.bind .done
  have opened : (do ask (.claim s); push s : TaskM Unit).Tells m t s ⟨some t, none⟩ (.inside t)
      state [.push] (.ok ()) := by
    have told : (push s).Tells m t s (.inside t) (.inside t) state [.push] _ := push_tells
    rw [pushed] at told
    exact claim_tells.bind told
  unfold enter
  rw [← bind_assoc]
  exact acquired.bind (opened.orElse _)

theorem leave_tells (popped : (m.backend.respond .pop state).1 = .ok ()) :
    (leave s).Tells m t s (.inside t) .free state [.pop] (.ok ()) := by
  have closed : (do pop s; ask (.disclaim s) : TaskM Unit).Tells m t s (.inside t) ⟨some t, none⟩
      state [.pop] (.ok ()) := by
    have told : (pop s).Tells m t s (.inside t) (.inside t) state [.pop] _ := pop_tells
    rw [popped] at told
    exact told.bind disclaim_tells
  exact closed.ensuring release_tells

/-- A scope is a push, the calls of its body, and the pop. -/
theorem scope_tells {body : TaskM α} {calls : List Call} {result : Except Interrupt α}
    (pushed : (m.backend.respond .push state).1 = .ok ())
    (told : body.Tells m t s (.inside t) (.inside t) (m.backend.after [.push] state) calls result)
    (popped : (m.backend.respond .pop (m.backend.after (.push :: calls) state)).1 = .ok ()) :
    (scope s body).Tells m t s .free .free state (.push :: (calls ++ [.pop])) result :=
  (enter_tells pushed).bind (told.ensuring (leave_tells popped))

end Session

/-! ## The shared session -/

/-- Creations succeed, whether at once or later, and give states of a kind. -/
structure Surroundings.Creates (m : Surroundings σ) (kind : σ → Prop) : Prop where
  atOnce : ∀ c outcome, m.create c = some outcome → ∃ state, kind state ∧ outcome = .ok state
  later : ∀ c, ∃ state, kind state ∧ m.deliver c = .ok state

theorem Surroundings.creates_fresh {kind : σ → Prop} {b : Backend σ} {state : σ}
    (isKind : kind state) (atOnce : Bool) : (Surroundings.fresh b state atOnce).Creates kind where
  atOnce c outcome now := by
    cases atOnce with
    | false => cases now
    | true => exact ⟨state, isKind, (Option.some.inj now).symm⟩
  later _ := ⟨state, isKind, rfl⟩

namespace World

variable {c : CreationId} {kind : σ → Prop}

/-- A creation has ended with a session that nobody has used yet. -/
def Born (w : World σ) (c : CreationId) (s : SessionId) (state : σ) : Prop :=
  w.creations[c]? = some (some (.ok s)) ∧ w.sessions[s]? = some ⟨state, 0, .free w.loop, none⟩

theorem Born.serves {state : σ} (born : w.Born c s state) : w.Serves s .free state 0 :=
  ⟨.free w.loop, born.2, if_pos rfl⟩

theorem born_deliver {state : σ} (started : w.creations[c]? = some none) :
    (w.deliver c (.ok state)).Born c w.sessions.length state := by
  unfold deliver Born
  rw [started]
  simp [addSession, (List.getElem?_eq_some_iff.1 started).1]

theorem Born.deliver {state : σ} (born : w.Born c s state) (c' : CreationId)
    (outcome : Except Fault σ) :
    (w.deliver c' outcome).Born c s state := by
  obtain ⟨created, there⟩ := born
  have calm := calm_deliver w c' outcome
  refine ⟨?_, calm.loop ▸ calm.sessions s _ there⟩
  have other : w.creations[c']? = some none → c' ≠ c := by
    rintro opened rfl
    rw [created] at opened
    cases opened
  exact w.deliver_cases c' outcome (fun _ => created) (fun _ opened _ =>
    (List.getElem?_set_ne (other opened)).trans created) fun _ opened _ =>
      (List.getElem?_set_ne (other opened)).trans created

theorem Born.foldl_deliver {state : σ} (cs : List CreationId) (born : w.Born c s state) :
    (cs.foldl (fun w c => w.deliver c (m.deliver c)) w).Born c s state := by
  induction cs generalizing w with
  | nil => exact born
  | cons c' rest ih => exact ih (born.deliver c' _)

theorem exists_born (creates : m.Creates kind) {cs : List CreationId} (mem : c ∈ cs)
    (started : w.creations[c]? = some none) :
    ∃ s state, w.sessions.length ≤ s ∧ kind state ∧
      (cs.foldl (fun w c => w.deliver c (m.deliver c)) w).Born c s state := by
  induction cs generalizing w with
  | nil => cases mem
  | cons c' rest ih =>
    obtain ⟨state, isKind, outcome⟩ := creates.later c'
    rw [List.foldl_cons, outcome]
    by_cases same : c' = c
    · subst same
      exact ⟨_, state, Nat.le_refl _, isKind, (born_deliver started).foldl_deliver rest⟩
    · have still : (w.deliver c' (.ok state)).creations[c]? = some none :=
        (creations_deliver w c' c state).2 ⟨started, Ne.symm same⟩
      obtain ⟨s, state, new, isKind, born⟩ :=
        ih ((List.mem_cons.1 mem).resolve_left (Ne.symm same)) still
      exact ⟨s, state, Nat.le_trans (calm_deliver w c' _).length_le new, isKind, born⟩

theorem settle_creates (creates : m.Creates kind) (started : w.creations[c]? = some none) :
    ∃ s state, w.sessions.length ≤ s ∧ kind state ∧ (w.settle m).Born c s state := by
  obtain ⟨s, state, new, isKind, created, there⟩ :=
    exists_born creates (mem_openCreations.2 started) started
  have calm := calm_foldl_endCheck (w.openCreations.foldl (fun w c => w.deliver c (m.deliver c))
    w).openChecks (w.openCreations.foldl (fun w c => w.deliver c (m.deliver c)) w)
  refine ⟨s, state, new, isKind, ?_, ?_⟩
  · rw [settle, creations_foldl_endCheck, created]
  · exact calm.loop ▸ calm.sessions s _ there

/-! ## Getting the session -/

theorem runAlone_ensuring {body : TaskM α} {conclusion : TaskM Unit} {result : Except Interrupt α}
    (ran : w.runAlone m t body.run = (some result, w'))
    (concluded : w'.runAlone m t conclusion.run = (some (.ok ()), w'')) :
    w.runAlone m t (ensuring body conclusion).run = (some result, w'') := by
  obtain ⟨f, both, given⟩ : ∃ f : Except Interrupt α → Except Interrupt Unit →
      Program (Except Interrupt α), (ensuring body conclusion).run = body.run >>=
        (fun result => conclusion.run >>= f result) ∧ ∀ result, f result (.ok ()) = .done result :=
          ⟨_, rfl, fun _ => rfl⟩
  rw [both, runAlone_bind, ran]
  dsimp only
  rw [runAlone_bind, concluded]
  dsimp only
  rw [given]
  rfl

theorem runAlone_bind_ok {β : Type} {p : TaskM α} {a : α}
    (ran : w.runAlone m t p.run = (some (.ok a), w')) (f : α → TaskM β) :
    w.runAlone m t (p >>= f).run = w'.runAlone m t (f a).run := by
  rw [ExceptT.run_bind, runAlone_bind, ran]

/-- A creation gives a session that nobody has used, whether at once or later. -/
theorem runAlone_create (creates : m.Creates kind) (w : World σ)
    (f : Option (Except Fault SessionId) → TaskM α) :
    ∃ c s state w', w.runAlone m t (do f (← ask (.awaitCreation (← ask .startCreation)))).run =
        w'.runAlone m t (f (some (.ok s))).run ∧
      w'.Born c s state ∧ w.sessions.length ≤ s ∧ kind state ∧ w.Calm w' := by
  let started : World σ := { w with creations := w.creations ++ [none] }
  have opened : started.creations[w.creations.length]? = some none := by simp [started]
  have calm : w.Calm started :=
    ⟨rfl, rfl, fun _ _ there => there, fun _ => rfl, fun _ check there => ⟨check, there, rfl⟩⟩
  cases now : m.create w.creations.length with
  | some outcome =>
    obtain ⟨state, isKind, rfl⟩ := creates.atOnce _ _ now
    have born : (started.deliver w.creations.length (.ok state)).Born w.creations.length
        w.sessions.length state :=
      born_deliver opened
    have created : w.request m.toMachine t .startCreation =
        (some w.creations.length, started.deliver w.creations.length (.ok state)) := by
      simp only [request, startCreation, now, started]
    have awaited : (started.deliver w.creations.length (.ok state)).request m.toMachine t
        (.awaitCreation w.creations.length) =
        (some (some (.ok w.sessions.length)), started.deliver w.creations.length (.ok state)) := by
      simp only [request, response?, born.1]
    refine ⟨_, _, state, _, ?_, born, Nat.le_refl _, isKind, calm.trans (calm_deliver _ _ _)⟩
    rw [runAlone_ask_bind _ created, runAlone_ask_bind _ awaited]
  | none =>
    obtain ⟨s, state, new, isKind, born⟩ := settle_creates creates opened
    have created : w.request m.toMachine t .startCreation = (some w.creations.length, started) := by
      simp only [request, startCreation, now, started]
    have waits : started.request m.toMachine t (.awaitCreation w.creations.length) =
        (none, started) := by
      simp only [request, response?, opened]
    have responded : (started.settle m).response? t (.awaitCreation w.creations.length) =
        some (some (.ok s)) := by
      simp only [response?, born.1]
    refine ⟨_, s, state, _, ?_, born, new, isKind, calm.trans (calm_settle m started)⟩
    rw [runAlone_ask_bind _ created, runAlone_ask_bind_settled _ waits responded]

/-- A task alone gets the shared session, or creates one that nobody has used. -/
theorem runAlone_get (creates : m.Creates kind) (rest : w.AtRest kind) :
    ∃ s state checks w', w.runAlone m t Session.get.run = (some (.ok s), w') ∧
      w'.Serves s .free state checks ∧ kind state ∧ w'.shared = some s ∧
      (∀ s', w'.callsOn s' = w.callsOn s') ∧
      ((w.shared = some s ∧ w.Serves s .free state checks) ∨
        (w.shared = none ∧ w.sessions.length ≤ s ∧ checks = 0)) := by
  have look : w.request m.toMachine t .shared = (some w.shared, w) := rfl
  unfold Session.get
  rw [runAlone_ask_bind _ look]
  cases shared : w.shared with
  | some s =>
    obtain ⟨⟨state, checks, lock, owner⟩, there⟩ := exists_session (rest.shared s shared)
    obtain ⟨free, -, rfl, isKind⟩ := rest.sessions s _ there
    exact ⟨s, state, checks, w, rfl, ⟨lock, there, free⟩, isKind, shared, fun _ => rfl,
      .inl ⟨rfl, lock, there, free⟩⟩
  | none =>
    let locked : World σ := w.setLock .provider ⟨w.loop, some t, []⟩
    have acquired : w.request m.toMachine t (.acquire .provider) = (some (some ()), locked) := by
      have taken : locked.lock .provider = ⟨w.loop, some t, []⟩ := if_pos rfl
      simp only [request, rest.provider, Lock.free, Lock.acquire]
      simp only [response?, taken, locked, if_true]
    have again : locked.request m.toMachine t .shared = (some none, locked) := by
      simp only [request, locked, setLock, shared]
    obtain ⟨c, s, state, created, ran, born, new, isKind, calm⟩ :=
      runAlone_create (t := t) creates locked fun outcome => do
        let s ← ofExcept (← answered outcome)
        ask (.install s)
    let installed : World σ := { created with shared := some s, created := created.created + 1 }
    let unlocked : World σ := installed.setLock .provider (installed.lock .provider).release
    have create : locked.runAlone m t Session.create.run = (some (.ok ()), installed) := by
      unfold Session.create
      rw [runAlone_ask_bind _ again]
      exact ran.trans rfl
    have released : installed.runAlone m t (ask (.release .provider)).run =
      (some (.ok ()), unlocked) := rfl
    have current : unlocked.runAlone m t Session.current.run = (some (.ok s), unlocked) := rfl
    rw [runAlone_ask_bind _ acquired]
    refine ⟨s, state, 0, unlocked, ?_, born.serves, isKind, rfl,
      calm.calls, .inr ⟨rfl, new, rfl⟩⟩
    exact (runAlone_bind_ok (runAlone_ensuring create released) _).trans current

end World

end RecordAudit
