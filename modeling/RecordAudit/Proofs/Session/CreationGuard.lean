import Mathlib.Data.List.Nodup
import RecordAudit.Proofs.Session.Occupancy
import RecordAudit.Proofs.Session.ProviderCalls

/-!
# One creation at a time

The provider's lock guards the creation of sessions: the task that holds it is the only one that
waits for a creation, and no session is shared meanwhile. Every creation is accounted for by the
task that started it, and every session that was created and taken over was shared.
-/

namespace RecordAudit

variable {σ : Type} {m : Machine σ}

/-! ## Creations in the world -/

namespace World

variable {w : World σ}

def isSuccess : Option (Except Fault SessionId) → Bool
  | some (.ok _) => true
  | _ => false

def succeeded (w : World σ) : Nat := w.creations.countP isSuccess

theorem succeeded_congr {w' : World σ} (creations : w'.creations = w.creations) :
    w'.succeeded = w.succeeded :=
  congrArg (List.countP isSuccess) creations

theorem lock_unlocked : w.unlocked.lock .provider = (w.lock .provider).release :=
  Lock.on_of_loop (by simp [unlocked, setLock, lock])

theorem lock_acquired (t : TaskId) :
    (w.setLock .provider ((w.lock .provider).acquire t)).lock .provider =
      (w.lock .provider).acquire t :=
  Lock.on_of_loop (by simp [setLock, lock])

/-- A world that has other creations, and may have more sessions. -/
structure Provides (w w' : World σ) (creations : List (Option (Except Fault SessionId))) :
    Prop where
  creations : w'.creations = creations
  shared : w'.shared = w.shared
  created : w'.created = w.created
  lock : w'.lock .provider = w.lock .provider
  sessions : w.sessions.length ≤ w'.sessions.length

theorem deliver_of_opened {c : CreationId} (opened : w.creations[c]? = some none)
    (outcome : Except Fault σ) :
    ∃ result, w.Provides (w.deliver c outcome) (w.creations.set c (some result)) ∧
      ∀ s, result = .ok s → s < (w.deliver c outcome).sessions.length := by
  refine w.deliver_cases c outcome (absurd opened) (fun fault _ _ => ?_) fun state _ _ => ?_
  · exact ⟨.error fault, ⟨rfl, rfl, rfl, rfl, Nat.le_refl _⟩, nofun⟩
  · refine ⟨.ok w.sessions.length, ⟨rfl, rfl, rfl, rfl, ?_⟩, ?_⟩
    · simp
    · rintro _ ⟨⟩
      simp

theorem deliver_of_not_opened {c : CreationId} (closed : w.creations[c]? ≠ some none)
    (outcome : Except Fault σ) :
    w.deliver c outcome = w :=
  w.deliver_cases c outcome (fun _ => rfl) (fun _ opened => absurd opened closed) fun _ opened =>
    absurd opened closed

/-- What a world keeps that has other creations is kept when a creation ends. -/
theorem deliver_provides {P : World σ → Prop} (w : World σ) (c : CreationId)
    (outcome : Except Fault σ) (same : P w)
    (ended : ∀ result w', w.creations[c]? = some none →
      w.Provides w' (w.creations.set c (some result)) →
      (∀ s, result = .ok s → s < w'.sessions.length) → P w') : P (w.deliver c outcome) := by
  by_cases opened : w.creations[c]? = some none
  · obtain ⟨result, provides, known⟩ := deliver_of_opened opened outcome
    exact ended result _ opened provides known
  · rwa [deliver_of_not_opened opened]

/-- A creation that is started is the newest one, and may have ended at once. -/
theorem startCreation_cases (m : Machine σ) (w : World σ) :
    (w.startCreation m).1 = w.creations.length ∧ ∃ result,
      w.Provides (w.startCreation m).2 (w.creations ++ [result]) ∧
      ∀ s, result = some (.ok s) → s < (w.startCreation m).2.sessions.length := by
  unfold startCreation
  dsimp only
  cases m.create w.creations.length with
  | none => exact ⟨rfl, none, ⟨rfl, rfl, rfl, rfl, Nat.le_refl _⟩, nofun⟩
  | some outcome =>
    have opened : (w.creations ++ [none])[w.creations.length]? = some none :=
      List.getElem?_concat_length ..
    obtain ⟨result, provides, known⟩ :=
      deliver_of_opened (w := { w with creations := w.creations ++ [none] }) opened outcome
    refine ⟨rfl, some result, ⟨?_, provides.shared, provides.created, provides.lock,
      provides.sessions⟩, ?_⟩
    · rw [provides.creations]
      simp
    · rintro s same
      exact known s (Option.some.inj same)

end World

/-! ## Tasks in stages -/

def inStage (kind : Stage → Bool) (stage : TaskId → Option Stage) (t : TaskId) : Bool :=
  (stage t).any kind

section InStage

variable {kind : Stage → Bool} {stage : TaskId → Option Stage} {t : TaskId} {st st' : Stage}

theorem inStage_of_eq (there : stage t = some st) : inStage kind stage t = kind st := by
  rw [inStage, there]
  rfl

theorem inStage_iff : inStage kind stage t = true ↔ ∃ st, stage t = some st ∧ kind st = true := by
  unfold inStage
  cases stage t <;> simp

theorem inStage_update : inStage kind (Function.update stage t (some st)) =
    Function.update (inStage kind stage) t (kind st) :=
  funext fun u => Function.apply_update (fun _ (s : Option Stage) => s.any kind) stage t (some st) u

theorem update_inStage {holds : Bool} (there : stage t = some st) (same : kind st = holds) :
    Function.update (inStage kind stage) t holds = inStage kind stage := by
  have here : inStage kind stage t = holds := (inStage_of_eq there).trans same
  rw [← here, Function.update_eq_self]

end InStage

theorem Scene.inStage_put {kind : Stage → Bool} {a : Scene σ} {t : TaskId} {st : Stage}
    {w : World σ} :
    inStage kind (a.put t st w).stage = Function.update (inStage kind a.stage) t (kind st) :=
  inStage_update

theorem Scene.inStage_put_same {kind : Stage → Bool} {a : Scene σ} {t : TaskId} {st st' : Stage}
    {w : World σ} (there : a.stage t = some st) (same : kind st' = kind st) :
    inStage kind (a.put t st' w).stage = inStage kind a.stage := by
  rw [Scene.inStage_put, update_inStage there same.symm]

/-- A task is in a stage as before, when another task moves, or when the move is between other
stages. -/
theorem Scene.stage_put_iff {a : Scene σ} {t u : TaskId} {st st' x : Stage} {w : World σ}
    (there : a.stage t = some st) (before : st ≠ x) (after : st' ≠ x) :
    (a.put t st' w).stage u = some x ↔ a.stage u = some x := by
  by_cases same : u = t
  · subst same
    rw [Scene.put_stage_self, there, Option.some_inj, Option.some_inj]
    exact iff_of_false after before
  · rw [Scene.put_stage_of_ne same]

/-! ## The guard -/

/-- The tasks that create sessions hold the lock, those in the queue wait for it, and a creation is
the newest one as long as a task waits for its end. -/
structure Guarded (a : Scene σ) : Prop where
  serves : (a.world.lock .provider).Serves (inStage Stage.isCreating a.stage)
    (inStage Stage.isQueued a.stage)
  creating : ∀ t c, a.stage t = some (.creating c) → a.world.shared = none ∧
    c + 1 = a.world.creations.length
  opened : ∀ c : CreationId, a.world.creations[c]? = some none → ∃ t, a.stage t = some (.creating c)

namespace Guarded

variable {a b : Scene σ} {t u : TaskId} {st st' : Stage} {c d : CreationId} {w : World σ}

theorem holder (h : Guarded a) (there : a.stage t = some (.creating c)) :
    (a.world.lock .provider).holder = some t :=
  h.serves.held t (by rw [inStage_of_eq there]; rfl)

/-- One task at a time creates a session. -/
theorem creating_unique (h : Guarded a) (there : a.stage t = some (.creating c))
    (there' : a.stage u = some (.creating d)) : u = t :=
  Option.some.inj ((h.holder there').symm.trans (h.holder there))

/-- While a task in the queue has been handed the lock, nobody creates a session. -/
theorem not_creating (h : Guarded a) (there : a.stage t = some .queued)
    (granted : (a.world.lock .provider).holder = some t) : a.stage u ≠ some (.creating c) := by
  intro creating
  have same := Option.some.inj ((h.holder creating).symm.trans granted)
  rw [same, there] at creating
  cases creating

theorem put (h : Guarded a) (there : a.stage t = some st) (before : st.isCreating = false)
    (after : st'.isCreating = false) (creations : w.creations = a.world.creations)
    (shared : w.shared = none ∨ w.shared = a.world.shared)
    (serves : (w.lock .provider).Serves (inStage Stage.isCreating a.stage)
      (Function.update (inStage Stage.isQueued a.stage) t st'.isQueued)) :
    Guarded (a.put t st' w) := by
  have elsewhere : ∀ u c, (a.put t st' w).stage u = some (.creating c) ↔
      a.stage u = some (.creating c) := fun u c =>
    Scene.stage_put_iff there (by rintro rfl; cases before) (by rintro rfl; cases after)
  constructor
  · rw [Scene.put_world, Scene.inStage_put_same there (after.trans before.symm), Scene.inStage_put]
    exact serves
  · intro u c creating
    obtain ⟨unshared, newest⟩ := h.creating u c ((elsewhere u c).1 creating)
    rw [Scene.put_world, creations]
    rcases shared with unshared' | same
    · exact ⟨unshared', newest⟩
    · exact ⟨same.trans unshared, newest⟩
  · intro c opened
    obtain ⟨u, creating⟩ := h.opened c (creations ▸ opened)
    exact ⟨u, (elsewhere u c).2 creating⟩

/-- The task that holds the lock starts a creation. -/
theorem create (h : Guarded a) (there : a.stage t = some .queued)
    (granted : (a.world.lock .provider).holder = some t) (unshared : a.world.shared = none)
    (makers : List TaskId) :
    Guarded { a.put t (.creating (a.world.startCreation m).1) (a.world.startCreation
      m).2 with makers := makers } := by
  obtain ⟨newest, result, provides, -⟩ := a.world.startCreation_cases m
  constructor
  · simp only [Scene.put_world, Scene.inStage_put, provides.lock]
    exact h.serves.granted granted
  · intro u c creating
    rcases Scene.put_stage_cases (w := (a.world.startCreation m).2) creating with ⟨rfl, here⟩ |
      ⟨-, before⟩
    · cases here
      simp [provides.shared, unshared, provides.creations, newest]
    · exact absurd before (h.not_creating there granted)
  · intro c opened
    simp only [Scene.put_world, provides.creations] at opened
    rcases getElem?_concat_cases opened with earlier | ⟨last, -⟩
    · obtain ⟨u, creating⟩ := h.opened c earlier
      exact absurd creating (h.not_creating there granted)
    · exact ⟨t, by simp [newest, last]⟩

/-- A task whose creation has ended gives the lock back, and nobody creates a session. -/
theorem conclude (h : Guarded a) (there : a.stage t = some (.creating c))
    {outcome : Except Fault SessionId} (ended : a.world.creations[c]? = some (some outcome))
    (finished : st'.isFinished = true) (creations : w.creations = a.world.creations)
    (released : w.lock .provider = (a.world.lock .provider).release) : Guarded (a.put t st' w) := by
  have after : st'.isCreating = false ∧ st'.isQueued = false := by
    cases st' <;> first | exact ⟨rfl, rfl⟩ | cases finished
  have alone : ∀ u d, (a.put t st' w).stage u ≠ some (.creating d) := by
    intro u d creating
    rcases Scene.put_stage_cases creating with ⟨-, rfl⟩ | ⟨other, before⟩
    · cases finished
    · exact other (h.creating_unique there before)
  constructor
  · have notQueued : st'.isQueued = (Stage.creating c).isQueued := after.2
    rw [Scene.put_world, released, Scene.inStage_put_same there notQueued,
      Scene.inStage_put, after.1]
    exact h.serves.release (by rw [inStage_of_eq there]; rfl) (by rw [inStage_of_eq there]; rfl)
  · exact fun u d creating => absurd creating (alone u d)
  · intro d opened
    have stillOpen : a.world.creations[d]? = some none := creations ▸ opened
    obtain ⟨u, creating⟩ := h.opened d stillOpen
    obtain rfl := h.creating_unique there creating
    rw [there] at creating
    cases creating
    rw [ended] at stillOpen
    cases stillOpen

theorem move (h : Guarded a) (move : Move m t a b) : Guarded b := by
  cases move with
  | discard there =>
    refine h.put there rfl rfl rfl (.inl rfl) ?_
    exact (update_inStage there rfl).symm ▸ h.serves
  | pick there shared =>
    refine h.put there rfl rfl rfl (.inr rfl) ?_
    exact (update_inStage there rfl).symm ▸ h.serves
  | queue there unshared =>
    refine h.put there rfl rfl rfl (.inr rfl) ?_
    rw [World.lock_acquired]
    exact h.serves.acquire (inStage_of_eq there) (inStage_of_eq there)
  | find there granted shared =>
    refine h.put there rfl rfl rfl (.inr rfl) ?_
    have released := (h.serves.granted granted).release (Function.update_self ..)
      (Function.update_self ..)
    have creators : Function.update (inStage Stage.isCreating a.stage) t false =
        inStage Stage.isCreating a.stage :=
      update_inStage there rfl
    rw [Function.update_idem, creators] at released
    rw [World.lock_unlocked]
    exact released
  | create there granted unshared => exact h.create there granted unshared _
  | install there ended => exact h.conclude there ended rfl rfl World.lock_unlocked
  | fail there ended => exact h.conclude there ended rfl rfl World.lock_unlocked

theorem deliver (h : Guarded a) (c : CreationId) (outcome : Except Fault σ) :
    Guarded { a with world := a.world.deliver c outcome } := by
  refine a.world.deliver_provides (P := fun w => Guarded { a with world := w }) c outcome h
    fun result w opened provides _ => ⟨?_, fun t d creating => ?_, fun d stillOpen => ?_⟩
  · rw [provides.lock]
    exact h.serves
  · obtain ⟨unshared, newest⟩ := h.creating t d creating
    refine ⟨provides.shared.trans unshared, ?_⟩
    rw [provides.creations, List.length_set, newest]
  · rw [provides.creations] at stillOpen
    by_cases same : c = d
    · subst same
      rw [List.getElem?_set_self (List.getElem?_eq_some_iff.1 opened).1] at stillOpen
      cases stillOpen
    · rw [List.getElem?_set_ne same] at stillOpen
      exact h.opened d stillOpen

end Guarded

/-! ## The account of creations -/

/-- The stage of a task whose creation has ended. -/
def Stage.ended : Except Fault SessionId → Stage
  | .ok s => .returned s
  | .error fault => .failed fault

/-- Every creation was started by a task of its own, which waits for its end or has ended with its
outcome. The sessions that were created are those that were shared, but for one that is not taken
over yet. -/
structure Accounted (a : Scene σ) : Prop where
  length : a.makers.length = a.world.creations.length
  nodup : a.makers.Nodup
  maker : ∀ (t : TaskId) (c : CreationId), a.stage t = some (.creating c) → a.makers[c]? = some t
  made : ∀ (c : CreationId) t, a.makers[c]? = some t → a.stage t = some (.creating c) ∨
    ∃ outcome, a.world.creations[c]? = some (some outcome) ∧ a.stage t = some (.ended outcome)
  failed : ∀ t fault, a.stage t = some (.failed fault) →
    ∃ c : CreationId, a.makers[c]? = some t ∧ a.world.creations[c]? = some (some (.error fault))
  taken : (∀ t (c : CreationId) s, a.stage t = some (.creating c) →
    a.world.creations[c]? ≠ some (some (.ok s))) → a.world.created = a.world.succeeded
  pending : ∀ t (c : CreationId) s, a.stage t = some (.creating c) →
    a.world.creations[c]? = some (some (.ok s)) → a.world.created + 1 = a.world.succeeded

namespace Accounted

variable {a b : Scene σ} {t u : TaskId} {st st' : Stage} {c d : CreationId} {w : World σ}

/-- A task that is at the lock, or before it, has started no creation. -/
theorem not_maker (h : Accounted a) (there : a.stage t = some st) (before : 2 ≤ st.rank) :
    t ∉ a.makers := by
  intro mem
  obtain ⟨c, made⟩ := List.mem_iff_getElem?.1 mem
  rcases h.made c t made with creating | ⟨outcome, -, ended⟩
  · rw [there] at creating
    cases creating
    exact absurd before (by simp [Stage.rank])
  · rw [there] at ended
    cases ended
    cases outcome <;> exact absurd before (by simp [Stage.ended, Stage.rank])

theorem put (h : Accounted a) (there : a.stage t = some st) (before : 2 ≤ st.rank)
    (after : st'.isCreating = false) (notFailed : ∀ fault, st' ≠ .failed fault)
    (creations : w.creations = a.world.creations) (created : w.created = a.world.created) :
    Accounted (a.put t st' w) := by
  have creating_iff : ∀ u c, (a.put t st' w).stage u = some (.creating c) ↔
      a.stage u = some (.creating c) := fun u c =>
    Scene.stage_put_iff there (by rintro rfl; exact absurd before (by simp [Stage.rank]))
      (by rintro rfl; cases after)
  have failed_iff : ∀ u fault, (a.put t st' w).stage u = some (.failed fault) ↔
      a.stage u = some (.failed fault) :=
    fun u fault => Scene.stage_put_iff there
      (by rintro rfl; exact absurd before (by simp [Stage.rank])) (notFailed fault)
  have notMaker := h.not_maker there before
  have succeeded := World.succeeded_congr creations
  constructor
  · rw [Scene.put_makers, Scene.put_world, creations]
    exact h.length
  · exact h.nodup
  · exact fun u c creating => h.maker u c ((creating_iff u c).1 creating)
  · intro c u made
    have other : u ≠ t := by
      rintro rfl
      exact notMaker (List.mem_of_getElem? made)
    rw [Scene.put_stage_of_ne other, Scene.put_world, creations]
    exact h.made c u made
  · intro u fault failed
    rw [Scene.put_makers, Scene.put_world, creations]
    exact h.failed u fault ((failed_iff u fault).1 failed)
  · intro none
    rw [Scene.put_world, created, succeeded]
    refine h.taken fun u c s creating => ?_
    have other := none u c s ((creating_iff u c).2 creating)
    exact creations ▸ other
  · intro u c s creating ended
    rw [Scene.put_world, created, succeeded]
    exact h.pending u c s ((creating_iff u c).1 creating) (creations ▸ ended)

/-- A creation that is started is accounted for by its task. -/
theorem create (h : Accounted a) (guarded : Guarded a) (there : a.stage t = some .queued)
    (granted : (a.world.lock .provider).holder = some t) :
    Accounted { a.put t (.creating (a.world.startCreation m).1) (a.world.startCreation m).2 with
      makers := a.makers ++ [t] } := by
  obtain ⟨newest, result, provides, -⟩ := a.world.startCreation_cases m
  have notMaker := h.not_maker there (by decide)
  have settled : a.world.created = a.world.succeeded :=
    h.taken fun u c s creating => absurd creating (guarded.not_creating there granted)
  -- The creation that has started is the only one that a task waits for.
  have last : ∀ {u c},
      (a.put t (.creating (a.world.startCreation m).1) (a.world.startCreation m).2).stage u =
        some (.creating c) → u = t ∧ c = a.world.creations.length := by
    intro u c creating
    rcases Scene.put_stage_cases creating with ⟨rfl, here⟩ | ⟨-, before⟩
    · cases here
      exact ⟨rfl, newest⟩
    · exact absurd before (guarded.not_creating there granted)
  have newestResult : (a.world.startCreation m).2.creations[a.world.creations.length]? =
      some result := by
    rw [provides.creations]
    exact List.getElem?_concat_length ..
  have earlier : ∀ {c : CreationId} {outcome}, a.world.creations[c]? = some outcome →
      (a.world.startCreation m).2.creations[c]? = some outcome := by
    intro c outcome ended
    rw [provides.creations, List.getElem?_append_left (List.getElem?_eq_some_iff.1 ended).1]
    exact ended
  have count : (a.world.startCreation m).2.succeeded =
      a.world.succeeded + if World.isSuccess result then 1 else 0 := by
    unfold World.succeeded
    rw [provides.creations, List.countP_append, List.countP_singleton]
  constructor
  · simp [provides.creations, h.length]
  · exact List.concat_eq_append ▸ List.Nodup.concat notMaker h.nodup
  · intro u c creating
    obtain ⟨rfl, rfl⟩ := last creating
    simp [← h.length]
  · intro c u made
    rcases getElem?_concat_cases made with before | ⟨last, rfl⟩
    · have other : u ≠ t := by
        rintro rfl
        exact notMaker (List.mem_of_getElem? before)
      simp only [Scene.put_world, Scene.put_stage_of_ne other]
      exact (h.made c u before).imp_right fun ⟨outcome, ended, stage⟩ =>
        ⟨outcome, earlier ended, stage⟩
    · simp [newest, last, h.length]
  · intro u fault failed
    rcases Scene.put_stage_cases (w := (a.world.startCreation m).2) failed with ⟨-, here⟩ |
      ⟨-, before⟩
    · cases here
    · obtain ⟨c, made, ended⟩ := h.failed u fault before
      exact ⟨c, (List.getElem?_append_left (List.getElem?_eq_some_iff.1 made).1).trans made,
        earlier ended⟩
  · intro none
    have unsuccessful : World.isSuccess result = false := by
      match result with
      | some (.ok s) =>
        exact absurd newestResult (none t a.world.creations.length s (by simp [newest]))
      | some (.error _) | .none => rfl
    simp [provides.created, count, settled, unsuccessful]
  · intro u c s creating ended
    obtain ⟨rfl, rfl⟩ := last creating
    obtain rfl := Option.some.inj (newestResult.symm.trans ended)
    simp [provides.created, count, settled, World.isSuccess]

/-- A creation that has ended is taken over. -/
theorem conclude (h : Accounted a) (guarded : Guarded a) (there : a.stage t = some (.creating c))
    {outcome : Except Fault SessionId} (ended : a.world.creations[c]? = some (some outcome))
    (creations : w.creations = a.world.creations)
    (created : w.created = a.world.created + if World.isSuccess (some outcome) then 1 else 0) :
    Accounted (a.put t (.ended outcome) w) := by
  have made := h.maker t c there
  have alone : ∀ u d, (a.put t (.ended outcome) w).stage u ≠ some (.creating d) := by
    intro u d creating
    rcases Scene.put_stage_cases creating with ⟨-, here⟩ | ⟨other, before⟩
    · cases outcome <;> cases here
    · exact other (guarded.creating_unique there before)
  constructor
  · rw [Scene.put_makers, Scene.put_world, creations]
    exact h.length
  · exact h.nodup
  · exact fun u d creating => absurd creating (alone u d)
  · intro d u made'
    rw [Scene.put_world, creations]
    by_cases same : u = t
    · subst same
      have one : d = c := (List.getElem?_inj (List.getElem?_eq_some_iff.1 made').1 h.nodup).1
        (made'.trans made.symm)
      exact .inr ⟨outcome, one ▸ ended, Scene.put_stage_self⟩
    · rw [Scene.put_stage_of_ne same]
      exact h.made d u made'
  · intro u fault failed
    rw [Scene.put_makers, Scene.put_world, creations]
    rcases Scene.put_stage_cases failed with ⟨rfl, here⟩ | ⟨-, before⟩
    · cases outcome with
      | ok s => cases here
      | error _ =>
        cases here
        exact ⟨c, made, ended⟩
    · exact h.failed u fault before
  · intro _
    rw [Scene.put_world, created, World.succeeded_congr creations]
    cases outcome with
    | ok s => exact h.pending t c s there ended
    | error fault =>
      refine h.taken fun u d s creating success => ?_
      obtain rfl := guarded.creating_unique there creating
      rw [there] at creating
      cases creating
      rw [ended] at success
      cases success
  · exact fun u d s creating => absurd creating (alone u d)

theorem move (h : Accounted a) (guarded : Guarded a) (move : Move m t a b) : Accounted b := by
  cases move with
  | discard there => exact h.put there (by decide) rfl nofun rfl rfl
  | pick there shared => exact h.put there (by decide) rfl nofun rfl rfl
  | queue there unshared => exact h.put there (by decide) rfl nofun rfl rfl
  | find there granted shared => exact h.put there (by decide) rfl nofun rfl rfl
  | create there granted unshared => exact h.create guarded there granted
  | install there ended => exact h.conclude guarded there ended rfl rfl
  | fail there ended => exact h.conclude guarded there ended rfl rfl

theorem deliver (h : Accounted a) (guarded : Guarded a) (c : CreationId)
    (outcome : Except Fault σ) :
    Accounted { a with world := a.world.deliver c outcome } := by
  refine a.world.deliver_provides (P := fun w => Accounted { a with world := w }) c outcome h
    fun result w opened provides _ => ?_
  obtain ⟨t, creating⟩ := guarded.opened c opened
  obtain ⟨lt, absent⟩ := List.getElem?_eq_some_iff.1 opened
  have kept : ∀ {d : CreationId} {outcome'}, a.world.creations[d]? = some (some outcome') →
      w.creations[d]? = some (some outcome') := by
    intro d outcome' ended
    have other : c ≠ d := by
      rintro rfl
      rw [opened] at ended
      cases ended
    rw [provides.creations, List.getElem?_set_ne other, ended]
  have itself : w.creations[c]? = some (some result) := by
    rw [provides.creations, List.getElem?_set_self lt]
  have settled : a.world.created = a.world.succeeded := h.taken fun u d s creating' success => by
    obtain rfl := guarded.creating_unique creating creating'
    rw [creating] at creating'
    cases creating'
    rw [opened] at success
    cases success
  have count : w.succeeded = a.world.succeeded + if World.isSuccess (some result)
      then 1 else 0 := by
    unfold World.succeeded
    rw [provides.creations, List.countP_set lt, absent]
    rfl
  constructor
  · rw [provides.creations, List.length_set]
    exact h.length
  · exact h.nodup
  · exact h.maker
  · intro d u made
    exact (h.made d u made).imp_right fun ⟨outcome', ended, stage⟩ => ⟨outcome', kept ended, stage⟩
  · intro u fault failed
    obtain ⟨d, made, ended⟩ := h.failed u fault failed
    exact ⟨d, made, kept ended⟩
  · intro none
    cases result with
    | ok s => exact absurd itself (none t c s creating)
    | error fault =>
      rw [provides.created, count, settled]
      rfl
  · intro u d s creating' ended
    obtain rfl := guarded.creating_unique creating creating'
    rw [creating] at creating'
    cases creating'
    obtain rfl := Option.some.inj (Option.some.inj (itself.symm.trans ended))
    rw [provides.created, count, settled]
    rfl

end Accounted

end RecordAudit
