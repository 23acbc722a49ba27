import RecordAudit.Proofs.Session.CreationGuard

/-!
# The shared session

Tasks that have finished tell which session is shared: the one that was returned last, unless it has
been discarded since. With the guard and the account of creations this is kept by all moves of
tasks, and so by all events of a run in which nobody is cancelled.
-/

namespace RecordAudit

variable {σ : Type} {m : Machine σ}

/-! ## What finished tasks tell -/

/-- The session that is shared, as told by the tasks that have finished. -/
inductive SharedAfter (stage : TaskId → Option Stage) : List TaskId → Option SessionId → Prop
  | start : SharedAfter stage [] none
  | discarded {order : List TaskId} {shared : Option SessionId} {t : TaskId}
      (before : SharedAfter stage order shared)
    (here : stage t = some .discarded) : SharedAfter stage (order ++ [t]) none
  /-- A task that returns a session finds it shared, or shares it when there is none. -/
  | returned {order : List TaskId} {shared : Option SessionId} {t : TaskId} {s : SessionId}
    (before : SharedAfter stage order shared) (consistent : shared = none ∨ shared = some s)
    (here : stage t = some (.returned s)) : SharedAfter stage (order ++ [t]) (some s)
  | failed {order : List TaskId} {shared : Option SessionId} {t : TaskId} {fault : Fault}
    (before : SharedAfter stage order shared) (here : stage t = some (.failed fault)) :
    SharedAfter stage (order ++ [t]) shared

namespace SharedAfter

variable {stage stage' : TaskId → Option Stage} {order pre mid post : List TaskId}
  {shared : Option SessionId} {t u : TaskId} {s s' : SessionId}

theorem isFinished (h : SharedAfter stage order shared) (mem : t ∈ order) :
    ∃ st, stage t = some st ∧ st.isFinished = true := by
  induction h with
  | start => cases mem
  | discarded _ here ih | returned _ _ here ih | failed _ here ih =>
    rcases List.mem_append.1 mem with mem | mem
    · exact ih mem
    · rw [List.mem_singleton.1 mem]
      exact ⟨_, here, rfl⟩

theorem congr (h : SharedAfter stage order shared) (same : ∀ t ∈ order, stage' t = stage t) :
    SharedAfter stage' order shared := by
  induction h with
  | start => exact .start
  | discarded _ here ih =>
    exact .discarded (ih fun t mem => same t (List.mem_append_left _ mem))
      ((same _ (by simp)).trans here)
  | returned _ consistent here ih =>
    exact .returned (ih fun t mem => same t (List.mem_append_left _ mem)) consistent
      ((same _ (by simp)).trans here)
  | failed _ here ih =>
    exact .failed (ih fun t mem => same t (List.mem_append_left _ mem))
      ((same _ (by simp)).trans here)

theorem latest (h : SharedAfter stage order shared) (split : order = pre ++ t :: mid)
    (here : stage t = some (.returned s)) (kept : ∀ u ∈ mid, stage u ≠ some .discarded) :
    shared = some s := by
  induction h generalizing mid with
  | start => simp at split
  | @discarded order shared u before gone ih =>
    rcases split_concat split with ⟨-, rfl, -⟩ | ⟨mid', rfl, -⟩
    · rw [gone] at here
      cases here
    · exact absurd gone (kept u (by simp))
  | @returned order shared u s' before consistent here' ih =>
    rcases split_concat split with ⟨-, rfl, -⟩ | ⟨mid', rfl, split'⟩
    · rw [here'] at here
      cases here
      rfl
    · have same := ih split' fun v mem => kept v (List.mem_append_left _ mem)
      rcases consistent with none | same'
      · rw [none] at same
        cases same
      · exact same'.symm.trans same
  | @failed order shared u fault before here' ih =>
    rcases split_concat split with ⟨-, rfl, -⟩ | ⟨mid', rfl, split'⟩
    · rw [here'] at here
      cases here
    · exact ih split' fun v mem => kept v (List.mem_append_left _ mem)

/-- Sessions that are returned one after the other, with no discard between them, are the same. -/
theorem same (h : SharedAfter stage order shared) (split : order = (pre ++ t :: mid) ++ u :: post)
    (first : stage t = some (.returned s)) (kept : ∀ v ∈ mid, stage v ≠ some .discarded)
    (second : stage u = some (.returned s')) : s = s' := by
  induction h generalizing post with
  | start => simp at split
  | @discarded order shared v before gone ih =>
    rcases split_concat split with ⟨-, rfl, -⟩ | ⟨post', -, split'⟩
    · rw [gone] at second
      cases second
    · exact ih split'
  | @returned order shared v s'' before consistent here ih =>
    rcases split_concat split with ⟨whole, rfl, -⟩ | ⟨post', -, split'⟩
    · rw [here] at second
      cases second
      have known := before.latest whole first kept
      rcases consistent with none | same
      · rw [none] at known
        cases known
      · exact Option.some.inj (known.symm.trans same)
    · exact ih split'
  | @failed order shared v fault before here ih =>
    rcases split_concat split with ⟨-, rfl, -⟩ | ⟨post', -, split'⟩
    · rw [here] at second
      cases second
    · exact ih split'

end SharedAfter

/-! ## Sessions in time -/

def discardsIn (calls : List ProviderCall) (order : List TaskId) : Nat :=
  order.countP fun t => decide (calls[t]? = some .discard)

theorem discardsIn_concat {calls : List ProviderCall} {order : List TaskId} {t : TaskId} :
    discardsIn calls (order ++ [t]) = discardsIn calls order + if calls[t]? = some .discard
      then 1 else 0 := by
  unfold discardsIn
  rw [List.countP_append, List.countP_singleton]
  simp

/-- Tasks make their calls, those that have finished tell which session is shared, and there is one
more session that was shared than there are discards, at most. -/
structure Timely (calls : List ProviderCall) (a : Scene σ) : Prop where
  call : ∀ t : TaskId, (a.stage t).map Stage.call = calls[t]?
  shares : SharedAfter a.stage a.order a.world.shared
  credit : a.world.created ≤ discardsIn calls a.order + a.world.shared.toList.length

namespace Timely

variable {calls : List ProviderCall} {a b : Scene σ} {t : TaskId} {st st' : Stage} {w : World σ}

theorem not_mem_order (h : Timely calls a) (there : a.stage t = some st)
    (unfinished : st.isFinished = false) :
    t ∉ a.order := by
  intro mem
  obtain ⟨st', there', finished⟩ := h.shares.isFinished mem
  rw [there] at there'
  cases there'
  rw [unfinished] at finished
  cases finished

theorem put (h : Timely calls a) (there : a.stage t = some st) (unfinished : st.isFinished = false)
    (call : st'.call = st.call)
    (shares : SharedAfter (a.put t st' w).stage a.order a.world.shared →
      SharedAfter (a.put t st' w).stage
        (if st'.isFinished then a.order ++ [t] else a.order) w.shared)
    (credit : w.created ≤
      discardsIn calls (if st'.isFinished then a.order ++ [t] else a.order) +
        w.shared.toList.length) :
    Timely calls (a.put t st' w) := by
  have absent := h.not_mem_order there unfinished
  refine ⟨fun u => ?_, shares (h.shares.congr fun u mem => Scene.put_stage_of_ne ?_), credit⟩
  · by_cases same : u = t
    · subst same
      rw [← h.call u, Scene.put_stage_self, there, Option.map_some, Option.map_some, call]
    · rw [Scene.put_stage_of_ne same]
      exact h.call u
  · rintro rfl
    exact absent mem

theorem move (h : Timely calls a) (guarded : Guarded a) (move : Move m t a b) : Timely calls b := by
  have within : a.world.shared.toList.length ≤ 1 := by cases a.world.shared <;> simp
  have credit := h.credit
  have steady : ∀ {st}, a.stage t = some st → st.call = .get →
      discardsIn calls (a.order ++ [t]) = discardsIn calls a.order := by
    intro st there get
    have mine : calls[t]? = some .get := by rw [← h.call, there, Option.map_some, get]
    rw [discardsIn_concat, mine, if_neg (by decide), Nat.add_zero]
  cases move with
  | discard there =>
    have mine : calls[t]? = some .discard := by rw [← h.call, there]; rfl
    refine h.put there rfl rfl (fun shares => .discarded shares Scene.put_stage_self) ?_
    change a.world.created ≤ discardsIn calls (a.order ++ [t]) + 0
    rw [discardsIn_concat, if_pos mine]
    omega
  | pick there shared =>
    refine h.put there rfl rfl (fun shares => ?_) ?_
    · rw [shared]
      exact .returned shares (.inr shared) Scene.put_stage_self
    · change a.world.created ≤ discardsIn calls (a.order ++ [t]) + _
      rw [steady there rfl]
      exact credit
  | queue there unshared => exact h.put there rfl rfl id credit
  | find there granted shared =>
    refine h.put there rfl rfl (fun shares => ?_) ?_
    · change SharedAfter _ (a.order ++ [t]) a.world.shared
      rw [shared]
      exact .returned shares (.inr shared) Scene.put_stage_self
    · change a.world.created ≤ discardsIn calls (a.order ++ [t]) + a.world.shared.toList.length
      rw [steady there rfl]
      exact credit
  | create there granted unshared =>
    obtain ⟨-, result, provides, -⟩ := a.world.startCreation_cases m
    have kept : Timely calls (a.put t (.creating (a.world.startCreation m).1)
        (a.world.startCreation m).2) := by
      refine h.put there rfl rfl (fun shares => ?_) ?_
      · rw [provides.shared]
        exact shares
      · rw [provides.created, provides.shared]
        exact credit
    exact ⟨kept.call, kept.shares, kept.credit⟩
  | install there ended =>
    have unshared := (guarded.creating t _ there).1
    refine h.put there rfl rfl (fun shares => .returned shares (.inl unshared) Scene.put_stage_self)
      ?_
    change a.world.created + 1 ≤ discardsIn calls (a.order ++ [t]) + 1
    rw [steady there rfl]
    rw [unshared] at credit
    exact Nat.succ_le_succ credit
  | fail there ended =>
    refine h.put there rfl rfl (fun shares => .failed shares Scene.put_stage_self) ?_
    change a.world.created ≤ discardsIn calls (a.order ++ [t]) + a.world.shared.toList.length
    rw [steady there rfl]
    exact credit

theorem deliver (h : Timely calls a) (c : CreationId) (outcome : Except Fault σ) :
    Timely calls { a with world := a.world.deliver c outcome } := by
  refine a.world.deliver_provides (P := fun w => Timely calls { a with world := w }) c outcome h
    fun result w _ provides _ => ⟨h.call, ?_, ?_⟩
  · rw [provides.shared]
    exact h.shares
  · rw [provides.created, provides.shared]
    exact h.credit

end Timely

/-- The sessions that are shared, were created or were returned exist. -/
structure Known (a : Scene σ) : Prop where
  shared : ∀ s, a.world.shared = some s → s < a.world.sessions.length
  outcomes : ∀ (c : CreationId) s, a.world.creations[c]? = some (some (.ok s)) →
    s < a.world.sessions.length
  returned : ∀ t s, a.stage t = some (.returned s) → s < a.world.sessions.length

namespace Known

variable {a b : Scene σ} {t : TaskId}

theorem provides (h : Known a) {w : World σ} {creations : List (Option (Except Fault SessionId))}
    (provides : a.world.Provides w creations)
    (outcomes : ∀ (c : CreationId) s, creations[c]? = some (some (.ok s)) → s < w.sessions.length) :
    Known { a with world := w } where
  shared s there := Nat.lt_of_lt_of_le (h.shared s (provides.shared ▸ there)) provides.sessions
  outcomes c s there := outcomes c s (provides.creations ▸ there)
  returned t s there := Nat.lt_of_lt_of_le (h.returned t s there) provides.sessions

theorem put (h : Known a) {st : Stage} {w : World σ} (sessions : w.sessions = a.world.sessions)
    (creations : w.creations = a.world.creations)
    (shared : ∀ s, w.shared = some s → s < a.world.sessions.length)
    (returned : ∀ s, st = .returned s → s < a.world.sessions.length) : Known (a.put t st w) := by
  constructor
  · intro s there
    rw [Scene.put_world, sessions]
    exact shared s there
  · intro c s there
    rw [Scene.put_world, sessions]
    exact h.outcomes c s (creations ▸ there)
  · intro u s there
    rw [Scene.put_world, sessions]
    rcases Scene.put_stage_cases there with ⟨-, here⟩ | ⟨-, before⟩
    · exact returned s here
    · exact h.returned u s before

theorem move (h : Known a) (move : Move m t a b) : Known b := by
  cases move with
  | discard there => exact h.put rfl rfl nofun nofun
  | pick there shared =>
    exact h.put rfl rfl h.shared fun s same => h.shared s (by cases same; exact shared)
  | queue there unshared => exact h.put rfl rfl h.shared nofun
  | find there granted shared =>
    exact h.put rfl rfl h.shared fun s same => h.shared s (by cases same; exact shared)
  | create there granted unshared =>
    obtain ⟨-, result, provides, new⟩ := a.world.startCreation_cases m
    have started := h.provides provides fun c s ended => by
      rcases getElem?_concat_cases ended with earlier | ⟨-, last⟩
      · exact Nat.lt_of_lt_of_le (h.outcomes c s earlier) provides.sessions
      · exact new s last
    have kept : Known (a.put t (.creating (a.world.startCreation m).1)
        (a.world.startCreation m).2) :=
      started.put rfl rfl started.shared nofun
    exact ⟨kept.shared, kept.outcomes, kept.returned⟩
  | install there ended =>
    refine h.put rfl rfl (fun s same => ?_) fun s same => ?_
    · cases same
      exact h.outcomes _ _ ended
    · cases same
      exact h.outcomes _ _ ended
  | fail there ended => exact h.put rfl rfl h.shared nofun

theorem deliver (h : Known a) (c : CreationId) (outcome : Except Fault σ) :
    Known { a with world := a.world.deliver c outcome } := by
  refine a.world.deliver_provides (P := fun w => Known { a with world := w }) c outcome h
    fun result w opened provides new => h.provides provides fun d s ended => ?_
  by_cases same : c = d
  · subst same
    rw [List.getElem?_set_self (List.getElem?_eq_some_iff.1 opened).1] at ended
    exact new s (Option.some.inj (Option.some.inj ended))
  · rw [List.getElem?_set_ne same] at ended
    exact Nat.lt_of_lt_of_le (h.outcomes d s ended) provides.sessions

end Known

/-! ## Runs -/

def Scene.start (calls : List ProviderCall) : Scene σ :=
  ⟨.empty, fun t => calls[t]?.map .unstarted, [], []⟩

/-- All that is kept when sessions are created, one at a time. -/
structure Single (calls : List ProviderCall) (a : Scene σ) : Prop where
  guarded : Guarded a
  accounted : Accounted a
  timely : Timely calls a
  known : Known a

/-- Events in which nobody is cancelled. -/
def Event.Uncancelled : Event σ → Prop
  | .cancel _ => False
  | _ => True

namespace Single

variable {calls : List ProviderCall} {a b : Scene σ} {t : TaskId}

theorem move (h : Single calls a) (move : Move m t a b) : Single calls b :=
  ⟨h.guarded.move move, h.accounted.move h.guarded move, h.timely.move h.guarded move,
    h.known.move move⟩

theorem moves (h : Single calls a) (moves : Moves m t a b) : Single calls b := by
  induction moves with
  | refl => exact h
  | tail _ last ih => exact ih.move last

theorem deliver (h : Single calls a) (c : CreationId) (outcome : Except Fault σ) :
    Single calls { a with world := a.world.deliver c outcome } :=
  ⟨h.guarded.deliver c outcome, h.accounted.deliver h.guarded c outcome, h.timely.deliver c outcome,
    h.known.deliver c outcome⟩

theorem endCheck (h : Single calls a) (c : CheckId) :
    Single calls { a with world := a.world.endCheck c } := by
  obtain ⟨⟨serves, creating, opened⟩, ⟨length, nodup, maker, made, failed, taken, pending⟩,
    ⟨call, shares, credit⟩, ⟨shared, outcomes, returned⟩⟩ := id h
  exact a.world.endCheck_cases c (fun _ => h) fun _ _ _ => ⟨⟨serves, creating, opened⟩,
    ⟨length, nodup, maker, made, failed, taken, pending⟩, ⟨call, shares, credit⟩,
    ⟨shared, outcomes, returned⟩⟩

theorem start (calls : List ProviderCall) : Single calls (Scene.start calls : Scene σ) := by
  have waiting : ∀ (t : TaskId) st, calls[t]?.map Stage.unstarted = some st → st.rank = 3 := by
    intro t st there
    obtain ⟨call, -, rfl⟩ := Option.map_eq_some_iff.1 there
    rfl
  have nowhere : ∀ {kind : Stage → Bool} (t : TaskId), (∀ call, kind (.unstarted call) = false) →
      inStage kind (fun t => calls[t]?.map .unstarted) t = false := by
    intro kind t no
    change (calls[t]?.map Stage.unstarted).any kind = false
    cases calls[t]? with
    | none => rfl
    | some call => exact no call
  refine ⟨⟨?_, ?_, nofun⟩, ⟨rfl, .nil, ?_, nofun, ?_, ?_, ?_⟩, ⟨?_, .start, Nat.le_refl _⟩,
    ⟨nofun, nofun, ?_⟩⟩
  · exact .free _ _ _ (fun t => nowhere t fun _ => rfl) fun t => nowhere t fun _ => rfl
  · intro t c creating
    cases waiting t _ creating
  · intro t c creating
    cases waiting t _ creating
  · intro t fault failed
    cases waiting t _ failed
  · exact fun _ => rfl
  · intro t c s creating
    cases waiting t _ creating
  · intro t
    change (calls[t]?.map Stage.unstarted).map Stage.call = calls[t]?
    cases calls[t]? <;> rfl
  · intro t s returned
    cases waiting t _ returned

end Single

theorem stage_moves {a b : Scene σ} {t u : TaskId} (moves : Moves m t a b) (other : u ≠ t) :
    b.stage u = a.stage u := by
  induction moves with
  | refl => rfl
  | tail _ last ih =>
    obtain ⟨_, _, -, -, -, stage, -⟩ := last.stages
    rw [stage, Function.update_of_ne other, ih]

/-- The creations that start in moves of a task are started by this task. -/
theorem makers_moves {a b : Scene σ} {t : TaskId} (moves : Moves m t a b) :
    ∃ k, b.world.creations.length = a.world.creations.length + k ∧
      b.makers = a.makers ++ List.replicate k t := by
  induction moves with
  | refl => exact ⟨0, rfl, by simp⟩
  | @tail b c _ last ih =>
    obtain ⟨k, length, makers⟩ := ih
    cases last with
    | discard there | pick there | queue there | find there | install there | fail there =>
      exact ⟨k, length, makers⟩
    | create there =>
      obtain ⟨-, result, provides, -⟩ := b.world.startCreation_cases m
      refine ⟨k + 1, ?_, ?_⟩
      · rw [Scene.put_world, provides.creations, List.length_append, length]
        rfl
      · rw [makers, List.replicate_succ', List.append_assoc]

/-- What an event does to a scene. -/
def Scene.After (m : Machine σ) (a : Scene σ) : Event σ → Scene σ → Prop
  | .step t, b => Moves m t a b ∧ ∀ c, ¬Move m t b c
  | .endCheck c, b => b = { a with world := a.world.endCheck c }
  | .deliver c outcome, b => b = { a with world := a.world.deliver c outcome }
  | .cancel _, _ => False

theorem Single.after {calls : List ProviderCall} {a b : Scene σ} (h : Single calls a) {e : Event σ}
    (after : a.After m e b) : Single calls b := by
  cases e with
  | step t => exact h.moves after.1
  | endCheck c =>
    obtain rfl := after
    exact h.endCheck c
  | deliver c outcome =>
    obtain rfl := after
    exact h.deliver c outcome
  | cancel t => exact after.elim

namespace Run

variable {α : Type} {calls : List ProviderCall}

/-- The tasks that start creations in an event, one for each creation. -/
def makersIn (m : Machine σ) (run : Run σ α) : Event σ → List TaskId
  | .step t => List.replicate ((run.step m t).world.creations.length - run.world.creations.length) t
  | _ => []

/-- For each creation that starts in some events, the task that starts it. -/
def makers (m : Machine σ) : Run σ α → List (Event σ) → List TaskId
  | _, [] => []
  | run, e :: rest => run.makersIn m e ++ (run.apply m e).makers m rest

variable {run : Run σ (Option SessionId)} {a : Scene σ} {events : List (Event σ)}

theorem makers_after {b : Scene σ} {e : Event σ} (h : run.Shows a) (h' : (run.apply m e).Shows b)
    (after : a.After m e b) : b.makers = a.makers ++ run.makersIn m e := by
  cases e with
  | step t =>
    obtain ⟨k, length, makers⟩ := makers_moves after.1
    have world : (run.step m t).world = b.world := h'.world
    have grown : (run.step m t).world.creations.length - run.world.creations.length = k := by
      rw [world, h.world, length, Nat.add_sub_cancel_left]
    rw [makers, makersIn, grown]
  | endCheck c | deliver c outcome =>
    obtain rfl := after
    exact (List.append_nil _).symm
  | cancel t => exact after.elim

/-- A run goes on as a scene does. -/
theorem Shows.apply (m : Machine σ) (h : run.Shows a) {e : Event σ} (uncancelled : e.Uncancelled) :
    ∃ b, (run.apply m e).Shows b ∧ a.After m e b := by
  cases e with
  | step t =>
    obtain ⟨b, moves, stuck, shows'⟩ := h.step m t
    exact ⟨b, shows', moves, stuck⟩
  | endCheck c =>
    have same : run.world.endCheck c = a.world.endCheck c := congrArg (World.endCheck · c) h.world
    exact ⟨{ a with world := a.world.endCheck c }, ⟨same, h.tasks, h.order⟩, rfl⟩
  | deliver c outcome =>
    have same : run.world.deliver c outcome = a.world.deliver c outcome :=
      congrArg (World.deliver · c outcome) h.world
    exact ⟨{ a with world := a.world.deliver c outcome }, ⟨same, h.tasks, h.order⟩, rfl⟩
  | cancel t => exact uncancelled.elim

/-- What every event keeps in a scene holds at the end of a run, and each creation has the task that
started it. -/
theorem Shows.applyAll {P : Scene σ → Prop} (h : run.Shows a) (first : P a)
    (uncancelled : ∀ e ∈ events, e.Uncancelled)
    (keeps : ∀ e ∈ events, ∀ {a b}, P a → a.After m e b → P b) :
    ∃ b, (run.applyAll m events).Shows b ∧ P b ∧ b.makers = a.makers ++ run.makers m events := by
  induction events generalizing run a with
  | nil => exact ⟨a, h, first, by simp [makers]⟩
  | cons e rest ih =>
    obtain ⟨b, shows, after⟩ := h.apply m (uncancelled e (by simp))
    obtain ⟨c, shows', holds, made⟩ := ih shows (keeps e (by simp) first after)
      (fun e' mem => uncancelled e' (by simp [mem])) fun e' mem => keeps e' (by simp [mem])
    refine ⟨c, shows', holds, ?_⟩
    rw [made, makers_after h shows after, makers, List.append_assoc]

/-- Tasks that each make one call, before any of them has started. -/
def ofCalls (calls : List ProviderCall) : Run σ (Option SessionId) :=
  ofPrograms .empty (calls.map ProviderCall.task)

theorem shows_ofCalls (calls : List ProviderCall) :
    (ofCalls calls : Run σ (Option SessionId)).Shows (.start calls) := by
  refine ⟨rfl, fun t => ?_, rfl⟩
  change ((calls.map ProviderCall.task).map fun p => TaskState.unstarted p.run)[t]? = _
  rw [List.getElem?_map, List.getElem?_map, Option.map_map, Scene.start, Option.map_map]
  rfl

end Run

end RecordAudit
