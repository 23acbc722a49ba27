import RecordAudit.Proofs.Session.Requests
import RecordAudit.Session.Run

/-!
# Interleavings of tasks that keep the rules

When every task keeps the rules by itself, every run of all of them keeps the world consistent, and
every task that finishes ends as it is wished, whatever the order of events is. Nobody is cancelled
here, and all creations end with clean backends.
-/

namespace RecordAudit

variable {σ α : Type} {m : Machine σ} {allows : Replies} {clean : σ → Prop}
  {past : SessionId → List (TaskId × Call)} {w : World σ} {stance : TaskId → Stance} {t : TaskId}

/-- The state of a task goes with its stance and with what is wished of its end. -/
def TaskState.Fits (allows : Replies) (Q : Except Interrupt α → Stance → Prop) :
    TaskState α → Stance → Prop
  | .unstarted p, st => st.hold = .nothing ∧ p.wp allows st Q
  | .waiting r next false, st =>
    st.WaitsWith allows r fun response st => (next response).wp allows st Q
  | .waiting _ _ true, _ => False
  | .finished result, st => Q result st

/-- A program that keeps the rules goes on to a waiting place that fits, or to the end. -/
theorem Program.advance_fits (keeps : m.Keeps allows clean) {Q : Except Interrupt α → Stance → Prop}
    {p : Program (Except Interrupt α)} (h : Consistent m allows clean past w stance)
    (wp : p.wp allows (stance t) Q) :
    ∃ st', (p.advance m t w).1.Fits allows Q st' ∧
      Consistent m allows clean past (p.advance m t w).2 (Function.update stance t st') := by
  induction p generalizing w stance with
  | done result => exact ⟨stance t, wp, h.unchanged t⟩
  | ask r next ih =>
    obtain ⟨st', after, went⟩ := h.request keeps wp
    rw [Program.advance]
    split
    · next response w' e =>
      rw [e] at after went
      obtain ⟨st'', fits, done⟩ := ih response after (by rwa [Function.update_self])
      exact ⟨st'', fits, by rwa [Function.update_idem] at done⟩
    · next w' e =>
      rw [e] at after went
      exact ⟨st', went, after⟩

namespace Run

/-- All tasks of a run fit their stances, and the world is consistent with these. -/
structure Coherent (m : Machine σ) (allows : Replies) (clean : σ → Prop)
    (past : SessionId → List (TaskId × Call)) (known : List SessionId)
    (Q : TaskId → Except Interrupt α → Stance → Prop) (run : Run σ α) (stance : TaskId → Stance) :
    Prop where
  world : Consistent m allows clean past run.world stance
  tasks : ∀ (t : TaskId) state, run.tasks[t]? = some state → state.Fits allows (Q t) (stance t)
  others : ∀ t, run.tasks.length ≤ t → stance t = .idle known

namespace Coherent

variable {known : List SessionId} {Q : TaskId → Except Interrupt α → Stance → Prop} {run : Run σ α}

theorem ofPrograms {programs : List (TaskM α)}
    (h : Consistent m allows clean past w fun _ => .idle known)
    (wp : ∀ (t : TaskId) p, programs[t]? = some p → p.wp allows (.idle known) (Q t)) :
    (Run.ofPrograms w programs).Coherent m allows clean past known Q fun _ => .idle known := by
  refine ⟨h, fun t state there => ?_, fun _ _ => rfl⟩
  rw [Run.ofPrograms, List.getElem?_map, Option.map_eq_some_iff] at there
  obtain ⟨p, there, rfl⟩ := there
  exact ⟨rfl, wp t p there⟩

theorem setTask (h : run.Coherent m allows clean past known Q stance) {state : TaskState α}
    (there : run.tasks[t]? = some state) {next : TaskState α × World σ} {st : Stance}
    (fits : next.1.Fits allows (Q t) st)
    (world : Consistent m allows clean past next.2 (Function.update stance t st)) :
    (run.setTask t next).Coherent m allows clean past known Q (Function.update stance t st) := by
  have lt : t < run.tasks.length := (List.getElem?_eq_some_iff.1 there).1
  refine ⟨world, fun u state' there' => ?_, fun u beyond => ?_⟩
  · rw [Run.setTask, List.getElem?_set] at there'
    by_cases e : t = u
    · subst e
      simp only [if_true, lt] at there'
      cases there'
      rw [Function.update_self]
      exact fits
    · rw [if_neg e] at there'
      rw [Function.update_of_ne (Ne.symm e)]
      exact h.tasks u state' there'
  · simp only [Run.setTask, List.length_set] at beyond
    rw [Function.update_of_ne (Nat.ne_of_gt (Nat.lt_of_lt_of_le lt beyond))]
    exact h.others u beyond

theorem step (h : run.Coherent m allows clean past known Q stance) (keeps : m.Keeps allows clean)
    (t : TaskId) :
    ∃ stance', (run.step m t).Coherent m allows clean past known Q stance' := by
  unfold Run.step
  split
  · next p there =>
    obtain ⟨st', fits, world⟩ := Program.advance_fits keeps h.world (h.tasks t _ there).2
    exact ⟨_, h.setTask there fits world⟩
  · next there => exact (h.tasks t _ there).elim
  · next r next there =>
    split
    · next response came =>
      obtain ⟨st', wp, world⟩ := h.world.respond (h.tasks t _ there) came
      obtain ⟨st'', fits, world⟩ := Program.advance_fits keeps world (by rwa [Function.update_self])
      rw [Function.update_idem] at world
      exact ⟨_, h.setTask there fits world⟩
    · exact ⟨stance, h⟩
  · exact ⟨stance, h⟩

end Coherent

end Run

/-- Events in which nobody is cancelled and creations end with clean backends. -/
def Event.Orderly (clean : σ → Prop) : Event σ → Prop
  | .step _ | .endCheck _ => True
  | .deliver _ outcome => ∃ state, clean state ∧ outcome = .ok state
  | .cancel _ => False

namespace Run.Coherent

variable {known : List SessionId} {Q : TaskId → Except Interrupt α → Stance → Prop} {run : Run σ α}

theorem apply (h : run.Coherent m allows clean past known Q stance) (keeps : m.Keeps allows clean)
    {e : Event σ} (orderly : e.Orderly clean) :
    ∃ stance', (run.apply m e).Coherent m allows clean past known Q stance' := by
  cases e with
  | step t => exact h.step keeps t
  | endCheck c => exact ⟨stance, h.world.endCheck c, h.tasks, h.others⟩
  | deliver c outcome =>
    obtain ⟨state, isClean, rfl⟩ := orderly
    exact ⟨stance, h.world.deliver isClean c, h.tasks, h.others⟩
  | cancel t => exact orderly.elim

theorem applyAll (h : run.Coherent m allows clean past known Q stance)
    (keeps : m.Keeps allows clean) {events : List (Event σ)}
    (orderly : ∀ e ∈ events, e.Orderly clean) :
    ∃ stance', (run.applyAll m events).Coherent m allows clean past known Q stance' := by
  induction events generalizing run stance with
  | nil => exact ⟨stance, h⟩
  | cons e rest ih =>
    obtain ⟨stance', h'⟩ := h.apply keeps (orderly e (by simp))
    exact ih h' fun e' he' => orderly e' (by simp [he'])

theorem finished (h : run.Coherent m allows clean past known Q stance) {result : Except Interrupt α}
    (there : run.tasks[t]? = some (.finished result)) : Q t result (stance t) :=
  h.tasks t _ there

/-- When all tasks have finished, and none of them ends with anything in hold, then nobody holds
anything. -/
theorem idle (h : run.Coherent m allows clean past known Q stance)
    (finished : run.isFinished = true) (ends : ∀ t result st, Q t result st → st.hold = .nothing)
    (t : TaskId) :
    (stance t).hold = .nothing := by
  rcases Nat.lt_or_ge t run.tasks.length with lt | beyond
  · have done := List.all_eq_true.1 finished _ (List.getElem_mem lt)
    have there := List.getElem?_eq_getElem lt
    cases e : run.tasks[t] with
    | finished result => exact ends t result _ (h.finished (there.trans (by rw [e])))
    | unstarted p => simp [e, TaskState.result?] at done
    | waiting r next cancelled => simp [e, TaskState.result?] at done
  · rw [h.others t beyond, Stance.idle_hold]

end Run.Coherent

/-! ## Rest -/

/-- No task is around: all locks are free, no scope has an owner, and all backends are clean. -/
structure World.AtRest (clean : σ → Prop) (w : World σ) : Prop where
  provider : w.lock .provider = .free w.loop
  current : w.providerLock.loop ≤ w.loop
  sessions : ∀ (s : SessionId) (session : SessionState σ), w.sessions[s]? = some session →
    session.lock.on w.loop = .free w.loop ∧ session.lock.loop ≤ w.loop ∧ session.owner = none ∧
      clean session.backend
  shared : ∀ s, w.shared = some s → s < w.sessions.length
  creations : ∀ (c : CreationId) outcome, w.creations[c]? = some (some outcome) →
    ∃ s < w.sessions.length, outcome = .ok s

theorem Lock.eq_free {l : Lock} {holds awaits : TaskId → Bool} (h : l.Serves holds awaits)
    (hh : ∀ t, holds t = false) (ha : ∀ t, awaits t = false) : l = .free l.loop := by
  have free : l.holder = none := by
    cases e : l.holder with
    | none => rfl
    | some t => simpa [hh, ha] using h.holder t e
  calc l = ⟨l.loop, l.holder, l.waiting⟩ := rfl
    _ = .free l.loop := by rw [free, h.idle free]; rfl

namespace World.AtRest

theorem empty (clean : σ → Prop) : (World.empty : World σ).AtRest clean :=
  ⟨rfl, Nat.le_refl 0, by simp [World.empty], by simp [World.empty], by simp [World.empty]⟩

theorem consistent (h : w.AtRest clean) {known : List SessionId}
    (there : ∀ s ∈ known, s < w.sessions.length) :
    Consistent m allows clean w.callsOn w fun _ => .idle known := by
  refine ⟨fun s session e => ?_, fun _ _ => rfl, h.current, ?_,
    fun t => ⟨there, nofun, trivial, nofun⟩, h.shared, h.creations⟩
  · obtain ⟨free, current, unowned, isClean⟩ := h.sessions s session e
    refine ⟨current, ?_, ?_, ⟨session.backend, isClean, ?_⟩, ⟨[], nofun, fun _ => rfl, ?_⟩⟩
    · rw [free]
      exact .free _ _ _ (fun _ => rfl) fun _ => rfl
    · simp [unowned, Place.owns]
    · rw [free]
      rfl
    · simp [free, visitCalls, Lock.inProgress_free]
  · rw [h.provider]
    exact .free _ _ _ (fun _ => rfl) fun _ => rfl

end World.AtRest

/-- A world is at rest when no task holds anything. -/
theorem Consistent.atRest (h : Consistent m allows clean past w stance)
    (idle : ∀ t, (stance t).hold = .nothing) : w.AtRest clean := by
  have away : ∀ t l, (stance t).hold.at l = .away := fun t l => by rw [idle]; rfl
  refine ⟨?_, h.current, fun s session e => ?_, h.shared, h.creations⟩
  · have free := Lock.eq_free h.provided (fun t => by rw [away]; rfl) fun t => by rw [away]; rfl
    rwa [World.lock, Lock.on_loop] at free
  · have fits := h.sessions s session e
    have free := Lock.eq_free fits.lock (fun t => by rw [away]; rfl) fun t => by rw [away]; rfl
    rw [Lock.on_loop] at free
    refine ⟨free, fits.current, ?_, ?_⟩
    · cases o : session.owner with
      | none => rfl
      | some t => simpa [away, Place.owns] using (fits.owner t).1 o
    · obtain ⟨state, isClean, e⟩ := fits.backend
      rw [free, Lock.inProgress_free] at e
      rw [e]
      exact isClean

/-- The next event loop finds a world at rest as it was left. -/
theorem World.AtRest.nextLoop (h : w.AtRest clean) : w.nextLoop.AtRest clean := by
  refine ⟨if_neg (Nat.ne_of_lt (Nat.lt_succ_of_le h.current)), Nat.le_succ_of_le h.current,
    fun s session e => ?_, h.shared, h.creations⟩
  obtain ⟨-, current, unowned, isClean⟩ := h.sessions s session e
  exact ⟨if_neg (Nat.ne_of_lt (Nat.lt_succ_of_le current)), Nat.le_succ_of_le current,
    unowned, isClean⟩

end RecordAudit
