import RecordAudit.Proofs.Session.SharedSession
import RecordAudit.Solver.Script

/-!
# One session is created

Tasks get the shared session and discard it, in any order of their steps. One creation at a time is
in flight, and at most one more of them succeeds than there are discards. Tasks that end one after
the other, with no discard between them, have got the same session. A creation that fails is the
fault of the task that started it alone, and the next task in the queue starts another one.
-/

namespace RecordAudit

variable {σ : Type} {m : Machine σ} {calls : List ProviderCall} {a b : Scene σ}
  {t u : TaskId} {st : Stage}

/-! ## Failures -/

theorem Move.granted (move : Move m t a b) (there : a.stage t = some .queued) :
    (a.world.lock .provider).holder = some t := by
  cases move with
  | find _ granted | create _ granted => exact granted
  | discard there' | pick there' | queue there' | install there' | fail there' =>
    rw [there] at there'
    cases there'

theorem eq_of_moves (moves : Moves m t a b) (there : a.stage t = some st)
    (finished : st.isFinished = true) :
    b = a := by
  rcases moves.cases_head with same | ⟨c, move, -⟩
  · exact same.symm
  · rw [move.unfinished there] at finished
    cases finished

/-- A task that fails leaves no session and hands the lock to the next task that waits. -/
theorem moves_failed (moves : Moves m t a b) (guarded : Guarded a) (there : a.stage t = some st)
    (unfinished : st.isFinished = false) {fault : Fault}
    (failed : b.stage t = some (.failed fault)) :
    b.world.shared = none ∧ b.world.created = a.world.created ∧
      (b.world.lock .provider).holder = (a.world.lock .provider).waiting.head? := by
  induction moves using Relation.ReflTransGen.head_induction_on generalizing st with
  | refl =>
    rw [there] at failed
    cases failed
    cases unfinished
  | @head a c move rest ih =>
    cases move with
    | discard there' | pick there' | find there' | install there' =>
      obtain rfl := eq_of_moves rest Scene.put_stage_self rfl
      rw [Scene.put_stage_self] at failed
      cases failed
    | queue there' unshared =>
      have after := guarded.move (.queue (m := m) there' unshared)
      cases free : (a.world.lock .provider).holder with
      | none =>
        have waiting : ((a.world.lock .provider).acquire t).waiting =
            (a.world.lock .provider).waiting := by
          rw [Lock.acquire, free]
        obtain ⟨gone, created, holder⟩ := ih after Scene.put_stage_self rfl
        rw [Scene.put_world, World.lock_acquired, waiting] at holder
        exact ⟨gone, created, holder⟩
      | some v =>
        -- another task holds the lock, and the task has to wait
        have other : v ≠ t := by
          rintro rfl
          rcases guarded.serves.holder v free with creating | queued
          · rw [inStage_of_eq there'] at creating
            cases creating
          · rw [inStage_of_eq there'] at queued
            cases queued
        have held : ((a.world.lock .provider).acquire t).holder = some v := by
          rw [Lock.acquire, free]
        rcases rest.cases_head with rfl | ⟨d, next, -⟩
        · rw [Scene.put_stage_self] at failed
          cases failed
        · have granted := next.granted Scene.put_stage_self
          rw [Scene.put_world, World.lock_acquired, held] at granted
          exact absurd (Option.some.inj granted) other
    | create there' granted unshared =>
      obtain ⟨-, result, provides, -⟩ := a.world.startCreation_cases m
      obtain ⟨gone, created, holder⟩ :=
        ih (guarded.move (.create (m := m) there' granted unshared)) (Function.update_self ..) rfl
      refine ⟨gone, created.trans provides.created, ?_⟩
      rw [holder, Scene.put_world, provides.lock]
    | fail there' ended =>
      obtain rfl := eq_of_moves rest Scene.put_stage_self rfl
      refine ⟨(guarded.creating t _ there').1, rfl, ?_⟩
      rw [Scene.put_world, World.lock_unlocked]
      rfl

/-! ## The next task that waits -/

/-- A task has been handed the lock, and no session is shared. -/
structure Granted (u : TaskId) (a : Scene σ) : Prop where
  queued : a.stage u = some .queued
  holder : (a.world.lock .provider).holder = some u
  unshared : a.world.shared = none

namespace Granted

/-- This stays so, whatever other tasks do. -/
theorem move (h : Granted u a) (guarded : Guarded a) (other : u ≠ t) (move : Move m t a b) :
    Granted u b := by
  have elsewhere : ∀ {st w}, (a.put t st w).stage u = some .queued := fun {st w} =>
    (Scene.put_stage_of_ne other).trans h.queued
  cases move with
  | discard there => exact ⟨elsewhere, h.holder, rfl⟩
  | pick there shared =>
    rw [h.unshared] at shared
    cases shared
  | queue there unshared =>
    refine ⟨elsewhere, ?_, unshared⟩
    rw [Scene.put_world, World.lock_acquired, Lock.acquire, h.holder]
  | find there granted | create there granted =>
    exact absurd (Option.some.inj (h.holder.symm.trans granted)) other
  | install there ended | fail there ended =>
    exact absurd (Option.some.inj (h.holder.symm.trans (guarded.holder there))) other

theorem moves (h : Granted u a) (guarded : Guarded a) (other : u ≠ t) (moves : Moves m t a b) :
    Granted u b := by
  suffices Granted u b ∧ Guarded b from this.1
  induction moves with
  | refl => exact ⟨h, guarded⟩
  | tail _ last ih => exact ⟨ih.1.move ih.2 other last, ih.2.move last⟩

theorem deliver (h : Granted u a) (c : CreationId) (outcome : Except Fault σ) :
    Granted u { a with world := a.world.deliver c outcome } := by
  refine a.world.deliver_provides (P := fun w => Granted u { a with world := w }) c outcome h
    fun result w _ provides _ => ⟨h.queued, ?_, provides.shared.trans h.unshared⟩
  rw [provides.lock]
  exact h.holder

theorem endCheck (h : Granted u a) (c : CheckId) :
    Granted u { a with world := a.world.endCheck c } :=
  a.world.endCheck_cases c (fun _ => h) fun _ _ _ => ⟨h.queued, h.holder, h.unshared⟩

/-- When the task goes on, it starts one creation. -/
theorem creates (h : Granted u a) (accounted : Accounted b) (moves : Moves m u a b)
    (stuck : ∀ c, ¬Move m u b c) :
    b.world.creations.length = a.world.creations.length + 1 := by
  rcases moves.cases_head with rfl | ⟨c, first, rest⟩
  · exact absurd (.create h.queued h.holder h.unshared) (stuck _)
  · cases first with
    | create =>
      obtain ⟨-, result, provides, -⟩ := a.world.startCreation_cases m
      obtain ⟨k, length, makers⟩ := makers_moves rest
      have once : (List.replicate (k + 1) u).Nodup := by
        have nodup := accounted.nodup
        rw [makers, List.append_assoc] at nodup
        exact (List.nodup_append.1 nodup).2.1
      have none_more : k = 0 := by
        have := List.nodup_replicate.1 once
        omega
      rw [length, none_more, Scene.put_world, provides.creations, List.length_append]
      rfl
    | find _ _ shared =>
      rw [h.unshared] at shared
      cases shared
    | discard there | pick there | queue there | install there | fail there =>
      rw [h.queued] at there
      cases there

end Granted

theorem Granted.after {e : Event σ} (h : Granted u a) (guarded : Guarded a) (other : e ≠ .step u)
    (after : a.After m e b) : Granted u b := by
  cases e with
  | step t => exact h.moves guarded (fun same => other (same ▸ rfl)) after.1
  | endCheck c =>
    obtain rfl := after
    exact h.endCheck c
  | deliver c outcome =>
    obtain rfl := after
    exact h.deliver c outcome
  | cancel t => exact after.elim

/-- A task that fails hands the lock to the next task that waits, if there is one. -/
theorem granted_of_failed (moves : Moves m t a b) (guarded : Guarded a)
    (there : a.stage t = some st) (unfinished : st.isFinished = false) {fault : Fault}
    (failed : b.stage t = some (.failed fault))
    (next : (a.world.lock .provider).waiting.head? = some u) (guarded' : Guarded b) :
    Granted u b := by
  obtain ⟨gone, -, holder⟩ := moves_failed moves guarded there unfinished failed
  have granted := holder.trans next
  have other : u ≠ t := by
    rintro rfl
    rcases guarded'.serves.holder u granted with creating | queued
    · rw [inStage_of_eq failed] at creating
      cases creating
    · rw [inStage_of_eq failed] at queued
      cases queued
  obtain ⟨st, waits, queued⟩ := inStage_iff.1 (guarded.serves.queued u (List.mem_of_head? next))
  refine ⟨?_, granted, gone⟩
  rw [stage_moves moves other, waits]
  cases st <;> first | rfl | cases queued

/-! ## What a run shows -/

namespace Run

variable {run : Run σ (Option SessionId)}

/-- A task waits for the end of a creation that it has started. -/
def Creates (run : Run σ (Option SessionId)) (t : TaskId) (c : CreationId) : Prop :=
  ∃ next, run.tasks[t]? = some (.waiting (.awaitCreation c) next false)

namespace Shows

variable (h : run.Shows a)
include h

theorem exists_stage {state : TaskState (Option SessionId)} (there : run.tasks[t]? = some state) :
    ∃ st, a.stage t = some st ∧ st.state = state := by
  rw [h.tasks] at there
  exact Option.map_eq_some_iff.1 there

theorem task_of_stage (there : a.stage t = some st) : run.tasks[t]? = some st.state := by
  rw [h.tasks, there]
  rfl

theorem creates_iff {c : CreationId} : run.Creates t c ↔ a.stage t = some (.creating c) := by
  constructor
  · rintro ⟨next, waits⟩
    obtain ⟨st, there, same⟩ := h.exists_stage waits
    cases st <;> cases same
    exact there
  · exact fun there => ⟨_, h.task_of_stage there⟩

theorem returned_iff {s : SessionId} :
    run.tasks[t]? = some (.finished (.ok (some s))) ↔ a.stage t = some (.returned s) := by
  constructor
  · intro finished
    obtain ⟨st, there, same⟩ := h.exists_stage finished
    cases st <;> cases same
    exact there
  · exact fun there => h.task_of_stage there

theorem failed_iff {e : Interrupt} :
    run.tasks[t]? = some (.finished (.error e)) ↔ ∃ fault, a.stage t = some (.failed fault) ∧
      e = .fault fault := by
  constructor
  · intro finished
    obtain ⟨st, there, same⟩ := h.exists_stage finished
    cases st <;> cases same
    exact ⟨_, there, rfl⟩
  · rintro ⟨fault, there, rfl⟩
    exact h.task_of_stage there

end Shows

/-- What is to be seen of creations, and of tasks that have finished, when calls are made in some
order. -/
structure CreatesOnce (calls : List ProviderCall) (makers : List TaskId)
    (run : Run σ (Option SessionId)) : Prop where
  /-- One creation at a time is in flight, -/
  inFlight : run.world.openCreations.length ≤ 1
  /-- with a task that waits for it, -/
  awaited : ∀ c ∈ run.world.openCreations, ∃ t, run.Creates t c
  /-- and no other task is between the start of a creation and its outcome. -/
  alone : ∀ t u c d, run.Creates t c → run.Creates u d → t = u ∧ c = d
  /-- Each creation that has succeeded was shared, once the task that started it has gone on. -/
  created : (∀ t c s, run.Creates t c → run.world.creations[c]? ≠ some (some (.ok s))) →
    run.world.created = run.world.succeeded
  pending : ∀ t c s, run.Creates t c → run.world.creations[c]? = some (some (.ok s)) →
    run.world.created + 1 = run.world.succeeded
  discards : run.world.created ≤ discardsIn calls run.order + 1
  /-- Who asks for the session gets one, -/
  given : ∀ (t : TaskId) result, calls[t]? = some .get →
    run.tasks[t]? = some (.finished (.ok result)) → ∃ s < run.world.sessions.length, result = some s
  /-- the one that is shared from then on until it is discarded. -/
  current : ∀ pre t mid s, run.order = pre ++ t :: mid →
    run.tasks[t]? = some (.finished (.ok (some s))) → (∀ u ∈ mid, calls[u]? ≠ some .discard) →
    run.world.shared = some s
  same : ∀ pre t mid u post s s', run.order = (pre ++ t :: mid) ++ u :: post →
    run.tasks[t]? = some (.finished (.ok (some s))) →
    run.tasks[u]? = some (.finished (.ok (some s'))) →
    (∀ v ∈ mid, calls[v]? ≠ some .discard) → s = s'
  /-- Each creation has a task of its own that started it, -/
  makers_length : makers.length = run.world.creations.length
  makers_nodup : makers.Nodup
  /-- which ends with the outcome of the creation, -/
  concluded : ∀ (c : CreationId) t outcome, makers[c]? = some t →
    run.world.creations[c]? = some (some outcome) → run.Creates t c ∨
      run.tasks[t]? = some (.finished ((outcome.map some).mapError .fault))
  /-- and no other task ends with a fault. -/
  raised : ∀ t e, run.tasks[t]? = some (.finished (.error e)) → ∃ (c : CreationId) (fault : Fault),
    makers[c]? = some t ∧ run.world.creations[c]? = some (some (.error fault)) ∧ e = .fault fault

/-- Where sessions are created one at a time, this is what is to be seen. -/
theorem Shows.createsOnce (h : run.Shows a) (single : Single calls a) :
    run.CreatesOnce calls a.makers := by
  obtain ⟨guarded, accounted, timely, known⟩ := single
  have kept : ∀ {mid : List TaskId}, (∀ u ∈ mid, calls[u]? ≠ some .discard) →
      ∀ u ∈ mid, a.stage u ≠ some .discarded := by
    intro mid get u mem gone
    refine get u mem ?_
    rw [← timely.call, gone]
    rfl
  constructor
  · rw [h.world]
    have nodup : a.world.openCreations.Nodup := List.nodup_range.filter _
    have newest : ∀ c ∈ a.world.openCreations, c + 1 = a.world.creations.length := by
      intro c mem
      obtain ⟨t, creating⟩ := guarded.opened c (World.mem_openCreations.1 mem)
      exact (guarded.creating t c creating).2
    match opened : a.world.openCreations, nodup, newest with
    | [], _, _ | [_], _, _ => simp
    | c :: d :: rest, nodup, newest =>
      have same : c = d := Nat.succ.inj ((newest c (by simp)).trans (newest d (by simp)).symm)
      exact absurd same (by simp_all)
  · intro c mem
    rw [h.world] at mem
    obtain ⟨t, creating⟩ := guarded.opened c (World.mem_openCreations.1 mem)
    exact ⟨t, h.creates_iff.2 creating⟩
  · intro t u c d first second
    have first := h.creates_iff.1 first
    have second := h.creates_iff.1 second
    obtain rfl := guarded.creating_unique first second
    rw [first] at second
    cases second
    exact ⟨rfl, rfl⟩
  · intro none
    rw [h.world] at none ⊢
    exact accounted.taken fun t c s creating => none t c s (h.creates_iff.2 creating)
  · intro t c s creates ended
    rw [h.world] at ended ⊢
    exact accounted.pending t c s (h.creates_iff.1 creates) ended
  · rw [h.world, h.order]
    have credit := timely.credit
    have within : a.world.shared.toList.length ≤ 1 := by cases a.world.shared <;> simp
    omega
  · intro t result get finished
    rw [h.world]
    obtain ⟨st, there, same⟩ := h.exists_stage finished
    rw [← timely.call, there] at get
    cases st with
    | returned s =>
      cases same
      exact ⟨s, known.returned t s there, rfl⟩
    | discarded => cases get
    | unstarted call | queued | creating c | failed fault => cases same
  · intro pre t mid s split finished get
    rw [h.world]
    exact timely.shares.latest (h.order ▸ split) (h.returned_iff.1 finished) (kept get)
  · intro pre t mid u post s s' split first second get
    exact timely.shares.same (h.order ▸ split) (h.returned_iff.1 first) (kept get)
      (h.returned_iff.1 second)
  · rw [h.world]
    exact accounted.length
  · exact accounted.nodup
  · intro c t outcome made ended
    rw [h.world] at ended
    rcases accounted.made c t made with creating | ⟨outcome', ended', stage⟩
    · exact .inl (h.creates_iff.2 creating)
    · rw [ended] at ended'
      cases ended'
      refine .inr ((h.task_of_stage stage).trans ?_)
      cases outcome <;> rfl
  · intro t e finished
    obtain ⟨fault, failed, rfl⟩ := h.failed_iff.1 finished
    obtain ⟨c, made, ended⟩ := accounted.failed t fault failed
    exact ⟨c, fault, made, by rw [h.world, ended], rfl⟩

/-- A task that has been handed the lock starts a creation when it goes on, whatever the others do
before. -/
theorem Shows.makersIn_granted (h : run.Shows a) (single : Single calls a) (granted : Granted u a)
    {events : List (Event σ)} (uncancelled : ∀ e ∈ events, e.Uncancelled)
    (still : .step u ∉ events) :
    (run.applyAll m events).makersIn m (.step u) = [u] := by
  obtain ⟨b, ready, ⟨single', granted'⟩, -⟩ := h.applyAll (m := m) (P := fun a => Single calls a ∧
    Granted u a) ⟨single, granted⟩ uncancelled fun e mem _ _ kept after =>
      ⟨kept.1.after after, kept.2.after kept.1.guarded (fun same => still (same ▸ mem)) after⟩
  obtain ⟨c, goes, moves, stuck⟩ := ready.apply m (e := .step u) trivial
  have goes : ((run.applyAll m events).step m u).Shows c := goes
  have grown := granted'.creates (single'.moves moves).accounted moves stuck
  rw [makersIn, goes.world, ready.world, grown, Nat.add_sub_cancel_left]
  rfl

end Run

/-- Tasks that ask for the shared session, or discard it, in any order of their steps, with
creations that end at once or later, and with or without a session: one creation at a time is in
flight, at most one more of them succeeds than there are discards, and those who ask get the session
that is shared, and the same one up to the next discard. Only the task that started a creation which
fails ends with its fault. There is no session then, and the next task that waits has been handed
the lock: whatever the others do before it goes on, it starts another creation. -/
theorem session_created_once (m : Machine σ) (calls : List ProviderCall) {events : List (Event σ)}
    (uncancelled : ∀ e ∈ events, e.Uncancelled) :
    let run := (Run.ofCalls calls).applyAll m events
    run.CreatesOnce calls ((Run.ofCalls calls).makers m events) ∧
      ∀ t e, (∀ result, run.tasks[t]? ≠ some (.finished result)) →
        (run.step m t).tasks[t]? = some (.finished (.error e)) →
          (run.step m t).world.shared = none ∧ (run.step m t).world.created = run.world.created ∧
          ((run.step m t).world.lock .provider).holder = (run.world.lock .provider).waiting.head? ∧
          ∀ u later, (run.world.lock .provider).waiting.head? = some u →
            (∀ e ∈ later, e.Uncancelled) → .step u ∉ later →
            ((run.step m t).applyAll m later).makersIn m (.step u) = [u] := by
  intro run
  obtain ⟨a, shows, single, makers⟩ :=
    (Run.shows_ofCalls calls).applyAll (m := m) (Single.start calls) uncancelled
      fun _ _ _ _ h after => h.after after
  have makers : a.makers = (Run.ofCalls calls).makers m events := makers
  refine ⟨makers ▸ shows.createsOnce single, fun t e unfinished raised => ?_⟩
  obtain ⟨b, shows', moves, -⟩ := shows.apply m (e := .step t) trivial
  have shows' : (run.step m t).Shows b := shows'
  obtain ⟨fault, failed, rfl⟩ := shows'.failed_iff.1 raised
  obtain ⟨st, there, going⟩ : ∃ st, a.stage t = some st ∧ st.isFinished = false := by
    rcases moves.cases_head with same | ⟨c, move, -⟩
    · rw [same] at shows
      exact absurd (shows.task_of_stage failed) (unfinished _)
    · obtain ⟨st, -, there, going, -⟩ := move.stages
      exact ⟨st, there, going⟩
  obtain ⟨gone, created, holder⟩ := moves_failed moves single.guarded there going failed
  rw [shows'.world, shows.world]
  refine ⟨gone, created, holder, fun u later next uncancelled' still => ?_⟩
  have single' := single.moves moves
  have granted := granted_of_failed moves single.guarded there going failed next single'.guarded
  exact shows'.makersIn_granted single' granted uncancelled' still

/-- Three tasks ask for the session, and the first creation fails. The second task tries again,
although the third one has come to the lock before. -/
theorem session_created_once_retry :
    ∃ (m : Machine Script) (run : Run Script (Option SessionId)),
      run = (Run.ofCalls [.get, .get, .get]).applyAll m
        [.step 0, .step 1, .deliver 0 (.error .outsideScope)] ∧
      run.CreatesOnce [.get, .get, .get] [0] ∧
      (run.step m 0).tasks[0]? = some (.finished (.error (.fault .outsideScope))) ∧
      (run.step m 0).world.shared = none ∧ (run.step m 0).world.created = 0 ∧
      ((run.step m 0).applyAll m [.step 2]).makersIn m (.step 1) = [1] := by
  have uncancelled : ∀ e ∈ [.step 0, .step 1, .deliver 0 (.error .outsideScope)],
      (e : Event Script).Uncancelled := by
    simp [Event.Uncancelled]
  obtain ⟨once, retry⟩ := session_created_once ⟨Script.backend, fun _ => none⟩
    [.get, .get, .get] uncancelled
  obtain ⟨unshared, created, -, next⟩ := retry 0 _ (fun _ finished => by cases finished) rfl
  have again := next 1 [.step 2] rfl (by simp [Event.Uncancelled]) (by simp)
  exact ⟨_, _, rfl, once, rfl, unshared, created, again⟩

end RecordAudit
