import RecordAudit.Proofs.Session.Conduct
import RecordAudit.Proofs.Session.Occupancy
import RecordAudit.Proofs.Session.Views

/-!
# The world is consistent with the stances of tasks

The invariant behind all runs: every lock serves the tasks that stand by it, every backend is a
clean one that has taken the calls of the task inside, and no stance speaks of anything that is not
there. A request that keeps the rules of its own task keeps the invariant, whatever the other tasks
are.
-/

namespace RecordAudit

/-- Where a task stands towards a lock. -/
def Hold.at (l : LockName) : Hold → Place
  | .nothing => .away
  | .queued l' => if l' = l then .queued else .away
  | .provider | .creating _ => if l = .provider then .inside false [] else .away
  | .scope s owner _ calls => if .session s = l then .inside owner calls else .away
  | .checking s _ calls timeout _ =>
    if .session s = l then .inside true (calls ++ [.check timeout]) else .away

def LockName.held : LockName → Hold
  | .provider => .provider
  | .session s => .scope s false 0 []

namespace Hold

@[simp] theorem at_nothing (l : LockName) : nothing.at l = .away := rfl

@[simp] theorem at_queued_self (l : LockName) : (queued l).at l = .queued := if_pos rfl

@[simp] theorem at_scope_self (s : SessionId) (owner : Bool) (n : Nat) (calls : List Call) :
    (scope s owner n calls).at (.session s) = .inside owner calls := if_pos rfl

@[simp] theorem at_checking_self (s : SessionId) (n : Nat) (calls : List Call) (τ : Timeout)
    (c : CheckId) :
    (checking s n calls τ c).at (.session s) = .inside true (calls ++ [.check τ]) := if_pos rfl

theorem at_queued_other {l l' : LockName} (h : l' ≠ l) : (queued l).at l' = .away := if_neg h.symm

theorem at_scope_other {l : LockName} {s : SessionId} (h : l ≠ .session s) (owner : Bool) (n : Nat)
    (calls : List Call) : (scope s owner n calls).at l = .away := if_neg h.symm

theorem at_checking_other {l : LockName} {s : SessionId} (h : l ≠ .session s) (n : Nat)
    (calls : List Call) (τ : Timeout) (c : CheckId) : (checking s n calls τ c).at l = .away :=
  if_neg h.symm

end Hold

theorem Hold.at_owns (s : SessionId) (h : Hold) : (h.at (.session s)).owns = h.owns s := by
  cases h with
  | queued l => by_cases e : l = .session s <;> simp [Hold.at, Hold.owns, Place.owns, e]
  | scope s' | checking s' => by_cases e : s' = s <;> simp [Hold.at, Hold.owns, Place.owns, e]
  | nothing | provider | creating c => rfl

def Stance.madeOn (st : Stance) (s : SessionId) : List (List Call) :=
  (st.made.filter (·.1 = s)).map Prod.snd

theorem Stance.madeOn_of_made {st : Stance} {s : SessionId} {blocks : List (List Call)}
    (h : st.made = blocks.map (Prod.mk s)) : st.madeOn s = blocks := by
  have all : st.made.filter (·.1 = s) = st.made := by
    refine List.filter_eq_self.2 fun v hv => ?_
    rw [h] at hv
    obtain ⟨calls, -, rfl⟩ := List.mem_map.1 hv
    simp
  rw [Stance.madeOn, all, h, List.map_map]
  exact List.map_id blocks

variable {σ α : Type}

/-- What a hold says about the world. -/
def Hold.Sound (allows : Replies) (w : World σ) : Hold → Prop
  | .nothing | .provider | .queued .provider => True
  | .queued (.session s) => s < w.sessions.length
  | .creating c => c < w.creations.length
  | .scope s owner n calls =>
    s < w.sessions.length ∧ Opened n calls ∧ (owner = false → n = 0)
  | .checking s n calls timeout c =>
    s < w.sessions.length ∧ 0 < n ∧ Opened n calls ∧
      ∃ check : RunningCheck, w.checks[c]? = some check ∧ allows calls (.check timeout) check.answer

/-- A stance speaks of what is there. -/
structure Stance.Sound (allows : Replies) (w : World σ) (st : Stance) : Prop where
  known : ∀ s ∈ st.known, s < w.sessions.length
  made : ∀ v ∈ st.made, v.1 < w.sessions.length
  hold : st.hold.Sound allows w
  served : st.served = true → w.shared.isSome

theorem Stance.sound_iff {allows : Replies} {w : World σ} {st : Stance} : st.Sound allows w ↔
    (∀ s ∈ st.known, s < w.sessions.length) ∧ (∀ v ∈ st.made, v.1 < w.sessions.length) ∧
      st.hold.Sound allows w ∧ (st.served = true → w.shared.isSome) :=
  ⟨fun h => ⟨h.known, h.made, h.hold, h.served⟩, fun h => ⟨h.1, h.2.1, h.2.2.1, h.2.2.2⟩⟩

theorem Stance.Sound.holding {allows : Replies} {w : World σ} {st : Stance}
    (sound : st.Sound allows w) {h : Hold} (new : h.Sound allows w) :
    (st.holding h).Sound allows w :=
  ⟨sound.known, sound.made, new, sound.served⟩

theorem Hold.Sound.grow {allows : Replies} {w w' : World σ} (g : w.Grows w') {h : Hold}
    (sound : h.Sound allows w) : h.Sound allows w' := by
  cases h with
  | nothing | provider => trivial
  | queued l =>
    cases l with
    | provider => trivial
    | session s => exact Nat.lt_of_lt_of_le sound g.sessions
  | creating c => exact Nat.lt_of_lt_of_le sound g.creations
  | scope s owner n calls => exact ⟨Nat.lt_of_lt_of_le sound.1 g.sessions, sound.2⟩
  | checking s n calls τ c =>
    obtain ⟨there, deep, opened, check, e, allowed⟩ := sound
    obtain ⟨check', e', same⟩ := g.checks c check e
    exact ⟨Nat.lt_of_lt_of_le there g.sessions, deep, opened, check', e', same ▸ allowed⟩

theorem Stance.Sound.grow {allows : Replies} {w w' : World σ} (g : w.Grows w') {st : Stance}
    (sound : st.Sound allows w) : st.Sound allows w' :=
  ⟨fun s hs => Nat.lt_of_lt_of_le (sound.known s hs) g.sessions,
    fun v hv => Nat.lt_of_lt_of_le (sound.made v hv) g.sessions, sound.hold.grow g,
    fun seen => g.shared (sound.served seen)⟩

/-- Clean states of a backend: the replies to calls within a block that starts on one are allowed,
and the block ends on one. Creations give clean states. -/
structure Machine.Keeps (m : Machine σ) (allows : Replies) (clean : σ → Prop) : Prop where
  reply : ∀ {n calls c state}, clean state → Opened n calls → (n = 0 → c = .push) →
    allows calls c (m.backend.respond c (m.backend.after calls state)).1
  block : ∀ {calls state}, clean state → IsBlock calls → clean (m.backend.after calls state)
  create : ∀ {c outcome}, m.create c = some outcome → ∃ state, clean state ∧ outcome = .ok state

/-- The world is consistent with where all tasks stand; `past` are the calls from before the tasks
were there. -/
structure Consistent (m : Machine σ) (allows : Replies) (clean : σ → Prop)
    (past : SessionId → List (TaskId × Call)) (w : World σ) (stance : TaskId → Stance) : Prop where
  sessions : ∀ (s : SessionId) (session : SessionState σ), w.sessions[s]? = some session →
    session.Fits m.backend clean (past s) (w.callsOn s) w.loop
      (fun t => (stance t).hold.at (.session s)) fun t => (stance t).madeOn s
  unborn : ∀ s, w.sessions.length ≤ s → w.callsOn s = past s
  current : w.providerLock.loop ≤ w.loop
  provided : (w.lock .provider).Serves (fun t => ((stance t).hold.at .provider).holds)
    fun t => ((stance t).hold.at .provider).awaits
  sound : ∀ t, (stance t).Sound allows w
  shared : ∀ s, w.shared = some s → s < w.sessions.length
  creations : ∀ (c : CreationId) outcome, w.creations[c]? = some (some outcome) →
    ∃ s < w.sessions.length, outcome = .ok s

/-- What a task that waits with a request stands for, and what it goes on with. -/
def Stance.WaitsWith (allows : Replies) (st : Stance) :
    (r : Request) → (r.Response → Stance → Prop) → Prop
  | .acquire l, K => st.hold = .queued l ∧ (Request.acquire l).wp allows (st.holding .nothing) K
  | .awaitCheck c, K => (Request.awaitCheck c).wp allows st K
  | .awaitCreation c, K => (Request.awaitCreation c).wp allows st K
  | _, _ => False

namespace Consistent

variable {m : Machine σ} {allows : Replies} {clean : σ → Prop}
  {past : SessionId → List (TaskId × Call)} {w w' : World σ} {stance : TaskId → Stance} {t : TaskId}
  {st : Stance} {s : SessionId} {session : SessionState σ}

/-! ## One task gets a new stance -/

theorem at_update (stance : TaskId → Stance) (t : TaskId) (st : Stance) (l : LockName) :
    (fun u => (Function.update stance t st u).hold.at l) =
      Function.update (fun u => (stance u).hold.at l) t (st.hold.at l) :=
  funext fun u => Function.apply_update (fun _ (st : Stance) => st.hold.at l) stance t st u

theorem comp_at_update {β : Type} (f : Place → β) (stance : TaskId → Stance) (t : TaskId)
    (st : Stance) (l : LockName) : (fun u => f ((Function.update stance t st u).hold.at l)) =
      Function.update (fun u => f ((stance u).hold.at l)) t (f (st.hold.at l)) :=
  funext fun u => Function.apply_update (fun _ (st : Stance) => f (st.hold.at l)) stance t st u

theorem comp_at_update_same {β : Type} (f : Place → β) {l : LockName}
    (h : f (st.hold.at l) = f ((stance t).hold.at l)) :
    (fun u => f ((Function.update stance t st u).hold.at l)) = fun u =>
      f ((stance u).hold.at l) := by
  rw [comp_at_update, h]
  exact Function.update_eq_self t fun u => f ((stance u).hold.at l)

theorem madeOn_update (stance : TaskId → Stance) (t : TaskId) (st : Stance) (s : SessionId) :
    (fun u => (Function.update stance t st u).madeOn s) =
      Function.update (fun u => (stance u).madeOn s) t (st.madeOn s) :=
  funext fun u => Function.apply_update (fun _ (st : Stance) => st.madeOn s) stance t st u

/-- A session is not concerned by a new stance that is the same towards it. -/
theorem fits_elsewhere {calls : List (TaskId × Call)}
    (h : session.Fits m.backend clean (past s) calls w.loop
        (fun t => (stance t).hold.at (.session s))
      fun t => (stance t).madeOn s)
    (place : st.hold.at (.session s) = (stance t).hold.at (.session s))
    (made : st.madeOn s = (stance t).madeOn s) :
    session.Fits m.backend clean (past s) calls w.loop
      (fun u => (Function.update stance t st u).hold.at (.session s))
      fun u => (Function.update stance t st u).madeOn s := by
  rw [at_update, madeOn_update, place, made, Function.update_eq_self, Function.update_eq_self]
  exact h

theorem provided_elsewhere {l : Lock}
    (h : l.Serves (fun t => ((stance t).hold.at .provider).holds)
      fun t => ((stance t).hold.at .provider).awaits)
    (place : st.hold.at .provider = (stance t).hold.at .provider) :
    l.Serves (fun u => ((Function.update stance t st u).hold.at .provider).holds)
      fun u => ((Function.update stance t st u).hold.at .provider).awaits := by
  rw [comp_at_update_same Place.holds (by rw [place]),
    comp_at_update_same Place.awaits (by rw [place])]
  exact h

theorem sound_update (h : ∀ u, (stance u).Sound allows w) (g : w.Grows w')
    (new : st.Sound allows w') (u : TaskId) :
    (Function.update stance t st u).Sound allows w' := by
  by_cases e : u = t
  · rw [e, Function.update_self]
    exact new
  · rw [Function.update_of_ne e]
    exact (h u).grow g

/-- A task does something to one session. -/
theorem onSession (h : Consistent m allows clean past w stance) (r : w.Revised w' s session)
    (fits : session.Fits m.backend clean (past s) (w'.callsOn s) w.loop
      (Function.update (fun u => (stance u).hold.at (.session s)) t (st.hold.at (.session s)))
      (Function.update (fun u => (stance u).madeOn s) t (st.madeOn s)))
    (place : ∀ l, l ≠ .session s → st.hold.at l = (stance t).hold.at l)
    (made : ∀ s' ≠ s, st.madeOn s' = (stance t).madeOn s') (sound : st.Sound allows w') :
    Consistent m allows clean past w' (Function.update stance t st) := by
  have there : s < w.sessions.length := r.length ▸ World.lt_of_session r.session
  refine ⟨fun s' session' there' => ?_, fun s' unborn => ?_, ?_, ?_, ?_, ?_, ?_⟩
  · rw [r.loop]
    by_cases e : s' = s
    · subst e
      rw [r.session] at there'
      cases there'
      rw [at_update, madeOn_update]
      exact fits
    · rw [r.others s' e] at there'
      rw [r.calls s' e]
      exact fits_elsewhere (h.sessions s' session' there') (place _ (by simpa using e)) (made s' e)
  · rw [r.length] at unborn
    have other : s' ≠ s := fun e => Nat.not_lt.2 unborn (e ▸ there)
    rw [r.calls s' other, h.unborn s' unborn]
  · rw [r.loop, r.providerLock]
    exact h.current
  · rw [World.lock, r.providerLock, r.loop]
    exact provided_elsewhere h.provided (place _ (by simp))
  · exact sound_update h.sound r.grows sound
  · rw [r.shared, r.length]
    exact h.shared
  · rw [r.creations, r.length]
    exact h.creations

theorem onSession_holding (h : Consistent m allows clean past w stance) (r : w.Revised w' s session)
    {hold : Hold}
    (fits : session.Fits m.backend clean (past s) (w'.callsOn s) w.loop
      (Function.update (fun u => (stance u).hold.at (.session s)) t (hold.at (.session s)))
      fun u => (stance u).madeOn s)
    (place : ∀ l, l ≠ .session s → hold.at l = (stance t).hold.at l)
    (sound : hold.Sound allows w') :
    Consistent m allows clean past w' (Function.update stance t ((stance t).holding hold)) := by
  have old := (h.sound t).grow r.grows
  refine h.onSession r ?_ place (fun _ _ => rfl) (old.holding sound)
  have made : Function.update (fun u => (stance u).madeOn s) t
      (((stance t).holding hold).madeOn s) = fun u => (stance u).madeOn s :=
        Function.update_eq_self t fun u => (stance u).madeOn s
  rw [made]
  exact fits

/-- A task does something that concerns no session. -/
theorem offSession (h : Consistent m allows clean past w stance)
    (sessions : w'.sessions = w.sessions) (loop : w'.loop = w.loop)
    (current : w'.providerLock.loop ≤ w.loop) (calls : ∀ s, w'.callsOn s = w.callsOn s)
    (grows : w.Grows w')
    (provided : (w'.lock .provider).Serves
      (fun u => ((Function.update stance t st u).hold.at .provider).holds)
      fun u => ((Function.update stance t st u).hold.at .provider).awaits)
    (shared : ∀ s, w'.shared = some s → s < w.sessions.length)
    (creations : ∀ (c : CreationId) outcome, w'.creations[c]? = some (some outcome) →
      ∃ s < w.sessions.length, outcome = .ok s)
    (place : ∀ s, st.hold.at (.session s) = (stance t).hold.at (.session s))
    (made : ∀ s, st.madeOn s = (stance t).madeOn s) (sound : st.Sound allows w') :
    Consistent m allows clean past w' (Function.update stance t st) := by
  refine ⟨fun s session there => ?_, fun s unborn => ?_, by rw [loop]; exact current, provided,
    sound_update h.sound grows sound, by
      rw [sessions]; exact shared, by rw [sessions]; exact creations⟩
  · rw [sessions] at there
    rw [calls, loop]
    exact fits_elsewhere (h.sessions s session there) (place s) (made s)
  · rw [sessions] at unborn
    rw [calls, h.unborn s unborn]

theorem away_of_unborn (h : Consistent m allows clean past w stance)
    (unborn : w.sessions.length ≤ s) (t : TaskId) : (stance t).hold.at (.session s) = .away := by
  have sound := (h.sound t).hold
  have other : ∀ s' < w.sessions.length, LockName.session s ≠ .session s' := fun s' there e => by
    cases e
    exact Nat.not_lt.2 unborn there
  cases e : (stance t).hold with
  | nothing | provider | creating c => rfl
  | queued l =>
    rw [e] at sound
    cases l with
    | provider => rfl
    | session s' => exact Hold.at_queued_other (other s' sound)
  | scope s' owner n calls =>
    rw [e] at sound
    exact Hold.at_scope_other (other s' sound.1) owner n calls
  | checking s' n calls τ c =>
    rw [e] at sound
    exact Hold.at_checking_other (other s' sound.1) n calls τ c

theorem madeOn_of_unborn (h : Consistent m allows clean past w stance)
    (unborn : w.sessions.length ≤ s) (t : TaskId) : (stance t).madeOn s = [] := by
  rw [Stance.madeOn, List.map_eq_nil_iff, List.filter_eq_nil_iff]
  intro v hv e
  exact Nat.not_lt.2 unborn (of_decide_eq_true e ▸ (h.sound t).made v hv)

theorem owner_eq (h : Consistent m allows clean past w stance) (s : SessionId) (t : TaskId) :
    (w.owner? s == some t) = (stance t).hold.owns s := by
  rw [← Hold.at_owns]
  rcases Nat.lt_or_ge s w.sessions.length with there | unborn
  · obtain ⟨session, e⟩ := World.exists_session there
    rw [World.owner?_eq e, Bool.eq_iff_iff, beq_iff_eq]
    exact (h.sessions s session e).owner t
  · rw [h.away_of_unborn unborn, World.owner?, List.getElem?_eq_none unborn]
    rfl

theorem unchanged (h : Consistent m allows clean past w stance) (t : TaskId) :
    Consistent m allows clean past w (Function.update stance t (stance t)) := by
  rwa [Function.update_eq_self]

theorem fits (h : Consistent m allows clean past w stance) (there : s < w.sessions.length) :
    ∃ session, w.sessions[s]? = some session ∧
      session.Fits m.backend clean (past s) (w.callsOn s) w.loop
        (fun t => (stance t).hold.at (.session s)) fun t => (stance t).madeOn s := by
  obtain ⟨session, e⟩ := World.exists_session there
  exact ⟨session, e, h.sessions s session e⟩

/-- A task looks at its place in another way. -/
theorem relabel (h : Consistent m allows clean past w stance)
    (place : ∀ l, st.hold.at l = (stance t).hold.at l) (made : st.made = (stance t).made)
    (sound : st.Sound allows w) : Consistent m allows clean past w (Function.update stance t st) :=
  h.offSession rfl rfl h.current (fun _ => rfl) (.of_eq rfl rfl rfl rfl)
    (provided_elsewhere h.provided (place _)) h.shared h.creations (fun s => place _)
      (fun s => by rw [Stance.madeOn, Stance.madeOn, made]) sound

/-- A task is told of a session that is there. -/
theorem meet (h : Consistent m allows clean past w stance) (there : s < w.sessions.length) :
    Consistent m allows clean past w (Function.update stance t ((stance t).meet s)) := by
  have sound := h.sound t
  refine h.relabel (fun _ => rfl) rfl ⟨fun s' hs => ?_, sound.made, sound.hold, sound.served⟩
  rcases List.mem_cons.1 hs with rfl | hs
  · exact there
  · exact sound.known s' hs

/-! ## Sessions and checks that come and go -/

theorem deliver (h : Consistent m allows clean past w stance) {state : σ} (isClean : clean state)
    (c : CreationId) : Consistent m allows clean past (w.deliver c (.ok state)) stance := by
  refine w.deliver_cases c (.ok state) (fun _ => h) nofun ?_
  rintro _ - ⟨⟩
  have grows : w.Grows { w with
      sessions := w.sessions ++ [⟨state, 0, .free w.loop, none⟩]
      creations := w.creations.set c (some (.ok w.sessions.length)) } :=
    ⟨by simp, by simp, id, fun c check e => ⟨check, e, rfl⟩⟩
  refine ⟨fun s session there => ?_, fun s unborn => h.unborn s ?_, h.current, h.provided,
    fun t => (h.sound t).grow grows, fun s e => Nat.lt_of_lt_of_le (h.shared s e) grows.sessions,
    fun c' outcome e' => ?_⟩
  · rcases Nat.lt_or_ge s w.sessions.length with old | new
    · exact h.sessions s session ((List.getElem?_append_left old).symm.trans there)
    · obtain ⟨rfl, rfl⟩ : s = w.sessions.length ∧ session = ⟨state, 0, .free w.loop, none⟩ := by
        have := World.lt_of_session there
        simp only [List.length_append, List.length_singleton] at this
        obtain rfl := Nat.le_antisymm (Nat.le_of_lt_succ this) new
        simpa [eq_comm] using there
      have calls := h.unborn _ (Nat.le_refl _)
      have fits : (⟨state, 0, .free w.loop, none⟩ : SessionState σ).Fits m.backend clean
          (past w.sessions.length) (past w.sessions.length) w.loop
          (fun t => (stance t).hold.at (.session w.sessions.length))
          fun t => (stance t).madeOn w.sessions.length :=
        .start isClean (h.away_of_unborn (Nat.le_refl _)) (h.madeOn_of_unborn (Nat.le_refl _))
      exact calls.symm ▸ fits
  · exact Nat.le_trans grows.sessions unborn
  · simp only [List.getElem?_set] at e'
    split at e'
    · split at e' <;> cases e'
      exact ⟨_, by simp, rfl⟩
    · obtain ⟨s, there, same⟩ := h.creations c' outcome e'
      exact ⟨s, Nat.lt_of_lt_of_le there grows.sessions, same⟩

theorem endCheck (h : Consistent m allows clean past w stance) (c : CheckId) :
    Consistent m allows clean past (w.endCheck c) stance := by
  refine w.endCheck_cases c (fun _ => h) fun check e _ => ?_
  have grows : w.Grows { w with
      checks := w.checks.set c { check with ended := true }
      history := .ended c :: w.history } := by
    refine ⟨Nat.le_refl _, Nat.le_refl _, id, fun c' check' e' => ?_⟩
    by_cases same : c = c'
    · subst same
      rw [e] at e'
      cases e'
      exact ⟨{ check with ended := true }, by simp [World.lt_of_check e], rfl⟩
    · exact ⟨check', by simpa [same] using e', rfl⟩
  have calls : ∀ s, ({ w with
      checks := w.checks.set c { check with ended := true }
      history := .ended c :: w.history } : World σ).callsOn s = w.callsOn s :=
    World.callsOn_ended rfl
  exact ⟨fun s session there => by rw [calls]; exact h.sessions s session there,
    fun s unborn => by rw [calls]; exact h.unborn s unborn, h.current, h.provided,
    fun t => (h.sound t).grow grows, h.shared, h.creations⟩

end Consistent

end RecordAudit
