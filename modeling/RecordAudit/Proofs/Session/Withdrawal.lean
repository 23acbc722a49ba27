import RecordAudit.Proofs.Session.Moments
import RecordAudit.Proofs.Session.Permission

/-!
# Permission is withdrawn

Tasks use the scopes of one session, and any call to its backend may fail. A task that has left a
scope, or could not enter it, has no part in the session's lock any more. It is refused from then
on, unless it last gave the lock back after a push or a pop that failed: then it may go on using the
session until another task opens a frame.
-/

namespace RecordAudit

variable {σ α : Type} {start : σ} {past : List (TaskId × Call)}
  {gave : TaskId → List (List (TaskId × Call))} {n : Nat} {footing : TaskId → Footing} {t : TaskId}
  {ft : Footing}

/-! ## Tasks -/

/-- What is left of a task abides by the rules, and the footing is that of a task that rests. -/
inductive TaskState.Abides (s : SessionId) : TaskState Unit → Footing → Prop where
  | unstarted {p} : p.Abides s (.outside false) Footing.Ends →
      Abides s (.unstarted p) (.outside false)
  | waiting {r next cancelled ft} :
    r.Waits s ft (fun response ft => (next response).Abides s ft Footing.Ends) →
      Abides s (.waiting r next cancelled) ft
  | finished {result} : Abides s (.finished result) (.outside false)

theorem TaskState.Abides.rested {s : SessionId} {state : TaskState Unit} (h : state.Abides s ft) :
    ft.rested = ft := by
  cases h with
  | unstarted | finished => rfl
  | waiting waits =>
    cases waits with
    | queued => rfl
    | elsewhere _ rests _ => exact rests

/-- All calls to a session so far, if its lock is given back in the moment. -/
def givesBack? (s : SessionId) :
    Program (Except Interrupt α) × World σ → Option (List (TaskId × Call))
  | (.ask r _, w) => r.givesBack? s w
  | (.done _, _) => none

/-- All calls to a session at each of the moments in which its lock is given back. -/
def gaveBack (s : SessionId) (moments : List (Program (Except Interrupt α) × World σ)) :
    List (List (TaskId × Call)) :=
  moments.filterMap (givesBack? s)

theorem gaveBack_cons (s : SessionId) (x : Program (Except Interrupt α) × World σ)
    (moments : List (Program (Except Interrupt α) × World σ)) :
    gaveBack s (x :: moments) = (givesBack? s x).toList ++ gaveBack s moments := by
  cases e : givesBack? s x <;> simp [gaveBack, e]

@[simp] theorem gaveBack_append (s : SessionId)
    (a b : List (Program (Except Interrupt α) × World σ)) :
    gaveBack s (a ++ b) = gaveBack s a ++ gaveBack s b := List.filterMap_append

section Steps

variable {m : Machine σ} {w : World σ} {s : SessionId}
  (h : w.Grants m.backend start past gave n s footing) (others : OthersRest footing t) (lt : t < n)

include h others lt

theorem TaskState.Abides.resumption {state : TaskState Unit} (fits : state.Abides s (footing t))
    {p : Program (Except Interrupt Unit)} {w' : World σ} (e : state.resumption t w = some (p, w')) :
    ∃ ft', w'.Grants m.backend start past gave n s (Function.update footing t ft') ∧
      p.Abides s ft' Footing.Ends := by
  generalize same : footing t = ft at fits
  cases fits with
  | unstarted abides =>
    obtain ⟨rfl, rfl⟩ := Prod.mk.inj (Option.some.inj e)
    exact ⟨footing t, by rwa [Function.update_eq_self], same ▸ abides⟩
  | finished => cases e
  | @waiting r next cancelled _ waits =>
    cases cancelled with
    | true =>
      obtain ⟨⟨response, w₁⟩, left, found⟩ := Option.map_eq_some_iff.1 e
      obtain ⟨rfl, rfl⟩ := Prod.mk.inj found
      cases waits with
      | queued _ hK =>
        obtain ⟨rfl, rfl⟩ := Prod.mk.inj (Option.some.inj left)
        exact ⟨_, h.abandon others lt same, hK⟩
      | elsewhere avoids _ hK =>
        have spared := h.spared (avoids.spares_cancelled left)
        exact ⟨footing t, by rwa [Function.update_eq_self], same ▸ hK response⟩
    | false =>
      obtain ⟨response, came, found⟩ := Option.map_eq_some_iff.1 e
      obtain ⟨rfl, rfl⟩ := Prod.mk.inj found
      cases waits with
      | queued hK _ =>
        obtain ⟨handed, rfl⟩ : (w.lock (.session s)).holder = some t ∧ some () = response := by
          simpa [World.response?] using came
        exact ⟨_, h.granted others handed, hK⟩
      | elsewhere avoids _ hK =>
        exact ⟨footing t, by rwa [Function.update_eq_self], same ▸ hK response⟩

/-- At each moment of its step a task abides by the rules, and what it gave back before is noted. -/
theorem Program.Abides.moments {p : Program (Except Interrupt Unit)}
    (abides : p.Abides s (footing t) Footing.Ends)
    {before after : List (Program (Except Interrupt Unit) × World σ)}
    {q : Program (Except Interrupt Unit)} {w' : World σ}
    (cut : p.moments m t w = before ++ (q, w') :: after) :
    ∃ ft', w'.Grants m.backend start past (Function.update gave t (gave t ++ gaveBack s before)) n s
        (Function.update footing t ft') ∧ q.Abides s ft' Footing.Ends := by
  induction p generalizing w footing gave before with
  | done result =>
    obtain ⟨rfl, e⟩ : before = [] ∧ (q, w') = (.done result, w) := by
      cases before <;> simp_all [Program.moments]
    obtain ⟨rfl, rfl⟩ := Prod.mk.inj e
    exact ⟨footing t, by simpa [gaveBack] using h, abides⟩
  | ask r next ih =>
    rw [Program.moments] at cut
    cases before with
    | nil =>
      obtain ⟨first, -⟩ := List.cons.inj cut
      obtain ⟨rfl, rfl⟩ := Prod.mk.inj first
      exact ⟨footing t, by simpa [gaveBack] using h, abides⟩
    | cons x before =>
      obtain ⟨rfl, later⟩ := List.cons.inj cut
      obtain ⟨ft₁, grants, follows⟩ := h.request others lt abides
      split at later
      · next response w₁ e =>
        rw [e] at grants follows
        obtain ⟨ft', grants', abides'⟩ :=
          ih response grants (others.update ft₁) (by rwa [Function.update_self]) later
        rw [Function.update_idem, Function.update_idem, Function.update_self,
          List.append_assoc] at grants'
        rw [gaveBack_cons]
        exact ⟨ft', grants', abides'⟩
      · simp at later

theorem Program.Abides.advance {p : Program (Except Interrupt Unit)}
    (abides : p.Abides s (footing t) Footing.Ends) :
    ∃ ft', (p.advance m t w).2.Grants m.backend start past
        (Function.update gave t (gave t ++ gaveBack s (p.moments m t w))) n s
          (Function.update footing t ft') ∧
      (p.advance m t w).1.Abides s ft' := by
  rcases p.exists_last_moment m t w with ⟨before, result, w', last, e⟩ |
    ⟨before, r, next, w', last, stays, e⟩
  · obtain ⟨ft₁, grants, ends⟩ := abides.moments h others lt last
    have rested := grants.rest (others.update ft₁) lt
    rw [Function.update_idem, Function.update_self] at rested
    have out : ft₁.rested = .outside false := by cases ft₁ <;> first | rfl | cases ends
    rw [e, last, gaveBack_append, gaveBack_cons, givesBack?, Option.toList_none]
    exact ⟨.outside false, by simpa [gaveBack, out] using rested, .finished⟩
  · obtain ⟨ft₁, grants, abides'⟩ := abides.moments h others lt last
    obtain ⟨ft', asked, waits⟩ :=
      grants.request (others.update ft₁) lt (by rw [Function.update_self]; exact abides')
    rw [stays] at waits
    rw [Function.update_idem, Function.update_idem, Function.update_self,
      List.append_assoc] at asked
    rw [e, last, gaveBack_append, gaveBack_cons, givesBack?]
    exact ⟨ft', by simpa [gaveBack] using asked, .waiting waits⟩

end Steps

/-! ## Runs -/

namespace Run

variable {m : Machine σ} {s : SessionId} {run : Run σ Unit}

/-- A session of the world and all tasks of a run fit the footings of the tasks. -/
structure Grants (m : Machine σ) (start : σ) (past : List (TaskId × Call))
    (gave : TaskId → List (List (TaskId × Call))) (n : Nat) (s : SessionId) (run : Run σ Unit)
    (footing : TaskId → Footing) : Prop where
  world : run.world.Grants m.backend start past gave n s footing
  tasks : ∀ (t : TaskId) state, run.tasks[t]? = some state → t < n ∧ state.Abides s (footing t)
  strangers : ∀ t : TaskId, run.tasks[t]? = none → footing t = .outside false

namespace Grants

theorem rests (h : run.Grants m start past gave n s footing) (t : TaskId) :
    (footing t).rested = footing t := by
  cases there : run.tasks[t]? with
  | none =>
    rw [h.strangers t there]
    rfl
  | some state => exact (h.tasks t state there).2.rested

theorem othersRest (h : run.Grants m start past gave n s footing) (t : TaskId) :
    OthersRest footing t :=
  fun u _ => h.rests u

/-- A task that has the lock, or is in its queue, waits in the midst of what it does. -/
theorem exists_waiting (h : run.Grants m start past gave n s footing)
    (part : (footing t).holds = true ∨ (footing t).awaits = true) :
    ∃ r next cancelled, run.tasks[t]? = some (.waiting r next cancelled) := by
  cases here : run.tasks[t]? with
  | none => simp [h.strangers t here, Footing.holds, Footing.awaits] at part
  | some state =>
    have stands := (h.tasks t state here).2
    generalize footing t = ft at part stands
    cases stands with
    | unstarted | finished => simp [Footing.holds, Footing.awaits] at part
    | waiting => exact ⟨_, _, _, rfl⟩

theorem setTask (h : run.Grants m start past gave n s footing) {state : TaskState Unit}
    (there : run.tasks[t]? = some state) (next : TaskState Unit × World σ)
    {gave' : TaskId → List (List (TaskId × Call))}
    (world : next.2.Grants m.backend start past gave' n s (Function.update footing t ft))
    (fits : next.1.Abides s ft) :
    (run.setTask t next).Grants m start past gave' n s (Function.update footing t ft) := by
  have lt : t < run.tasks.length := (List.getElem?_eq_some_iff.1 there).1
  refine ⟨world, fun u state' there' => ?_, fun u none_there => ?_⟩
  · by_cases same : u = t
    · subst same
      rw [Run.setTask, List.getElem?_set_self lt] at there'
      obtain rfl := Option.some.inj there'
      rw [Function.update_self]
      exact ⟨(h.tasks u state there).1, fits⟩
    · rw [Run.setTask, List.getElem?_set_ne (Ne.symm same)] at there'
      rw [Function.update_of_ne same]
      exact h.tasks u state' there'
  · by_cases same : u = t
    · subst same
      rw [Run.setTask, List.getElem?_set_self lt] at none_there
      cases none_there
    · rw [Run.setTask, List.getElem?_set_ne (Ne.symm same)] at none_there
      rw [Function.update_of_ne same]
      exact h.strangers u none_there

theorem resumption (h : run.Grants m start past gave n s footing)
    {p : Program (Except Interrupt Unit)} {w : World σ} (e : run.resumption t = some (p, w)) :
    ∃ ft, w.Grants m.backend start past gave n s (Function.update footing t ft) ∧
      p.Abides s ft Footing.Ends ∧ t < n := by
  obtain ⟨state, there, e⟩ := Option.bind_eq_some_iff.1 e
  obtain ⟨lt, fits⟩ := h.tasks t state there
  obtain ⟨ft, grants, abides⟩ := fits.resumption h.world (h.othersRest t) lt e
  exact ⟨ft, grants, abides, lt⟩

/-- At each moment of a step the footings fit, with what the task has still to do. -/
theorem moments (h : run.Grants m start past gave n s footing)
    {before after : List (Program (Except Interrupt Unit) × World σ)}
    {p : Program (Except Interrupt Unit)} {w : World σ}
    (cut : run.moments m t = before ++ (p, w) :: after) :
    ∃ ft, w.Grants m.backend start past (Function.update gave t (gave t ++ gaveBack s before)) n s
        (Function.update footing t ft) ∧ p.Abides s ft Footing.Ends ∧ t < n := by
  unfold Run.moments at cut
  split at cut
  · next p₀ w₀ e =>
    obtain ⟨ft₀, grants₀, abides₀, lt⟩ := h.resumption e
    have others := (h.othersRest t).update ft₀
    obtain ⟨ft, grants, abides⟩ :=
      Program.Abides.moments grants₀ others lt (by rwa [Function.update_self]) cut
    rw [Function.update_idem] at grants
    exact ⟨ft, grants, abides, lt⟩
  · simp at cut

theorem step (h : run.Grants m start past gave n s footing) (t : TaskId) :
    ∃ footing', (run.step m t).Grants m start past
      (Function.update gave t (gave t ++ gaveBack s (run.moments m t))) n s footing' := by
  rw [Run.step_eq, Run.moments]
  cases e : run.resumption t with
  | none => exact ⟨footing, by simpa [gaveBack] using h⟩
  | some next =>
    obtain ⟨state, there, -⟩ := Option.bind_eq_some_iff.1 e
    obtain ⟨ft₀, grants₀, abides₀, lt⟩ := h.resumption e
    have others := (h.othersRest t).update ft₀
    obtain ⟨ft, grants, fits⟩ :=
      Program.Abides.advance grants₀ others lt (by rwa [Function.update_self])
    rw [Function.update_idem] at grants
    exact ⟨_, h.setTask there _ grants fits⟩

theorem cancel (h : run.Grants m start past gave n s footing) (t : TaskId) :
    (run.cancel t).Grants m start past gave n s footing := by
  have put : ∀ {state next : TaskState Unit}, run.tasks[t]? = some state →
      next.Abides s (footing t) →
      (run.setTask t (next, run.world)).Grants m start past gave n s footing := by
    intro state next there fits
    have after := h.setTask there (next, run.world)
      (by rw [Function.update_eq_self]; exact h.world) fits
    rwa [Function.update_eq_self] at after
  unfold Run.cancel
  split
  · next p there =>
    have fits := (h.tasks t _ there).2
    refine put there ?_
    generalize footing t = ft at fits ⊢
    cases fits
    exact .finished
  · next r next was there =>
    have fits := (h.tasks t _ there).2
    refine put there ?_
    generalize footing t = ft at fits ⊢
    cases fits with
    | waiting waits => exact .waiting waits
  · exact h

/-- What tasks give back while events happen is noted. -/
theorem applyAll (h : run.Grants m start past gave n s footing) (events : List (Event σ)) :
    ∃ footing', (run.applyAll m events).Grants m start past
      (fun u => gave u ++ gaveBack s (run.passed m u events)) n s footing' := by
  induction events generalizing run footing gave with
  | nil => exact ⟨footing, by simpa [Run.passed, gaveBack, Run.applyAll] using h⟩
  | cons e rest ih =>
    cases e with
    | step t =>
      obtain ⟨footing', after⟩ := h.step t
      obtain ⟨footing'', done⟩ := ih after
      have noted : (fun u => Function.update gave t (gave t ++ gaveBack s (run.moments m t)) u ++
          gaveBack s ((run.step m t).passed m u rest)) =
          fun u => gave u ++ gaveBack s (run.passed m u (.step t :: rest)) := by
        funext u
        by_cases same : u = t
        · subst same
          simp [Run.passed]
        · rw [Function.update_of_ne same, Run.passed, if_neg (Ne.symm same), List.nil_append]
      exact ⟨footing'', noted ▸ done⟩
    | endCheck c =>
      exact ih ⟨h.world.spared ((World.calm_endCheck run.world c).spares s), h.tasks, h.strangers⟩
    | deliver c outcome =>
      exact ih ⟨h.world.spared ((World.calm_deliver run.world c outcome).spares s),
        h.tasks, h.strangers⟩
    | cancel t => exact ih (h.cancel t)

theorem ofPrograms {w : World σ} (there : w.backend? s = some start)
    (free : w.lock (.session s) = .free w.loop) (tasks : List (SessionTask s))
    (unowned : ∀ t < tasks.length, w.owner? s ≠ some t) :
    (Run.ofPrograms w (tasks.map SessionTask.run)).Grants m start (w.callsOn s) (fun _ => [])
        tasks.length s
      fun _ => .outside false := by
  obtain ⟨session, found, rfl⟩ := Option.map_eq_some_iff.1 there
  rw [World.lock_session found] at free
  refine ⟨⟨session, [], found, (List.append_nil _).symm, ?_, rfl, fun t lt =>
    ⟨nofun, fun isOwner => ?_⟩⟩, fun t state started => ?_, fun _ _ => rfl⟩
  · change (session.lock.on w.loop).Serves _ _
    rw [free]
    exact .free _ _ _ (fun _ => rfl) fun _ => rfl
  · exact absurd ((World.owner?_eq found).trans isOwner) (unowned t lt)
  · simp only [Run.ofPrograms, List.map_map, List.getElem?_map, Option.map_eq_some_iff] at started
    obtain ⟨task, here, rfl⟩ := started
    exact ⟨(List.getElem?_eq_some_iff.1 here).1, .unstarted (task.abides rfl)⟩

end Grants

end Run

/-! ## The theorem -/

/-- A task is refused whatever it would do with a session. -/
structure World.Refuses (m : Machine σ) (w : World σ) (s : SessionId) (t : TaskId) : Prop where
  add : ∀ a, (Session.add s a).Refused m w t
  check : ∀ timeout, (Session.check s timeout).Refused m w t
  frame : ∀ {α : Type} (body : TaskM α), (Session.frame s body).Refused m w t

theorem World.refuses {m : Machine σ} {w : World σ} {s : SessionId} (h : w.owner? s ≠ some t) :
    w.Refuses m s t :=
  ⟨Session.add_refused h, Session.check_refused h, Session.frame_refused h⟩

/-- Tasks use the scopes of a session in any order of steps, any call may fail, and tasks are
cancelled wherever they wait. Whenever a task has left a scope, or could not enter it, it has no
part in the lock: whoever has the lock is another task, in the midst of what it does. The task is
refused from then on, unless it last gave the lock back after a push or a pop that failed, and no
other task has opened a frame since. -/
theorem permission_withdrawn (m : Machine σ) (s : SessionId) {w₀ : World σ}
    (there : w₀.backend? s = some start) (free : w₀.lock (.session s) = .free w₀.loop)
    (tasks : List (SessionTask s)) (unowned : ∀ t < tasks.length, w₀.owner? s ≠ some t)
    (events : List (Event σ)) {first run : Run σ Unit}
    (begun : first = .ofPrograms w₀ (tasks.map SessionTask.run))
    (reached : run = first.applyAll m events)
    {before after : List (Program (Except Interrupt Unit) × World σ)} {rest : SessionTask s}
    {w : World σ} (outside : run.moments m t = before ++ (rest.run.run, w) :: after) :
    (∀ u, (w.lock (.session s)).holder = some u → u ≠ t ∧ ∃ r next cancelled,
      run.tasks[u]? = some (.waiting r next cancelled)) ∧
      t ∉ (w.lock (.session s)).waiting ∧
      (w.Refuses m s t ∨ ∃ calls, w.callsOn s = w₀.callsOn s ++ calls ∧
        m.backend.Lingers start (w₀.callsOn s) (gaveBack s (first.passed m t events ++ before))
          calls t) := by
  subst begun reached
  obtain ⟨footing, h⟩ := (Run.Grants.ofPrograms there free tasks unowned).applyAll events
  obtain ⟨ft, ⟨session, calls, found, calls_eq, grants⟩, abides, lt⟩ := h.moments outside
  obtain ⟨o, rfl⟩ : ∃ o, ft = .outside o := by
    have out := rest.outside abides
    cases ft <;> simp_all [Footing.inside?]
  have fits := grants.fits t lt
  rw [Function.update_self, Function.update_self, List.nil_append, ← gaveBack_append] at fits
  rw [World.lock_session found]
  refine ⟨fun u held => ?_, fun waits => ?_, ?_⟩
  · have part := grants.lock.holder u held
    have other : u ≠ t := by
      rintro rfl
      simp [Footing.holds, Footing.awaits] at part
    rw [Function.comp_apply, Function.comp_apply, Function.update_of_ne other] at part
    exact ⟨other, h.exists_waiting part⟩
  · simpa [Footing.awaits] using grants.lock.queued t waits
  · by_cases isOwner : w.owner? s = some t
    · exact .inr ⟨calls, calls_eq, fits.2 ((World.owner?_eq found).symm.trans isOwner)⟩
    · exact .inl (World.refuses isOwner)

/-- A backend that fails in one call. -/
def Backend.failingAt (n : Nat) : Backend Nat where
  respond
    | .push, k | .pop, k | .add _, k => (if k = n then .error .memoryExhausted else .ok (), k + 1)
    | .check _, k => (if k = n then .error .memoryExhausted else .ok Script.afterwards, k + 1)

/-- A task that could not open the frame of its scope is still the owner when it goes on to add an
assertion. -/
theorem permission_withdrawn_push_failed :
    let m := (Backend.failingAt 0).machine
    let rest : SessionTask 0 := .stray (Session.add 0 (.value (.bool true))) (.add _) fun _ => .done
    let task : SessionTask 0 := .visit (Session.frame 0 (pure ())) (.frame (.pure ())) fun _ => rest
    let run : Run Nat Unit := .ofPrograms (.single 0) [task.run]
    ∃ before w after, run.moments m 0 = before ++ (rest.run.run, w) :: after ∧ w.owner? 0 = some 0 ∧
      0 ∉ (w.lock (.session 0)).waiting ∧
      (w.Refuses m 0 0 ∨ ∃ calls, w.callsOn 0 = calls ∧
        m.backend.Lingers 0 [] (gaveBack 0 before) calls 0) := by
  intro m rest task run
  let w : World Nat := { World.single 0 with
    sessions := [⟨1, 0, .free 0, some 0⟩]
    history := [.called 0 0 .push] }
  obtain ⟨before, after, outside⟩ : ∃ before after, run.moments m 0 = before ++
      (rest.run.run, w) :: after :=
    ⟨(run.moments m 0).take 4, (run.moments m 0).drop 5, rfl⟩
  obtain ⟨-, not_waiting, refused⟩ :=
    permission_withdrawn m 0 (show (World.single 0).backend? 0 = some 0 from rfl) rfl [task]
      (by decide) [] rfl rfl outside
  exact ⟨before, w, after, outside, rfl, not_waiting, refused⟩

/-- The calls of a task that is alone with a backend that fails in one call. -/
def SessionTask.callsAlone (n : Nat) (task : SessionTask 0) : List (TaskId × Call) :=
  ((Run.ofPrograms (.single 0) [task.run]).applyAll (Backend.failingAt n).machine
    [.step 0]).world.callsOn 0

/-- After a push that failed, and after a pop that failed, a task goes on adding outside of every
scope, and without any failure it closes a frame there that it opened inside. -/
theorem permission_kept :
    let a : Operand := .value (.bool true)
    let adds : SessionTask 0 :=
      .visit (pure ()) (.pure ()) fun _ => .stray (Session.add 0 a) (.add a) fun _ => .done
    let closes : SessionTask 0 := .visit (Session.openFrame 0) .openFrame fun _ =>
      .stray (Session.pop 0) .closeFrame fun _ => .done
    adds.callsAlone 0 = [(0, .push), (0, .add a)] ∧
      adds.callsAlone 1 = [(0, .push), (0, .pop), (0, .add a)] ∧
      closes.callsAlone 4 = [(0, .push), (0, .push), (0, .pop), (0, .pop)] :=
  ⟨rfl, rfl, rfl⟩

end RecordAudit
