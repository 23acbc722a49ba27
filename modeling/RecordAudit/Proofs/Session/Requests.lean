import RecordAudit.Proofs.Session.Consistency

/-!
# Requests keep the world consistent

One lemma for each kind of request, about the task that makes it: its new stance and the new world
are consistent again. The stances of all other tasks stay as they are.
-/

namespace RecordAudit

variable {σ : Type}

namespace Consistent

variable {m : Machine σ} {allows : Replies} {clean : σ → Prop}
  {past : SessionId → List (TaskId × Call)} {w w' : World σ} {stance : TaskId → Stance} {t : TaskId}
  {st : Stance} {s : SessionId} {session : SessionState σ}

/-! ## Locks and owners -/

theorem acquire (h : Consistent m allows clean past w stance) {l : LockName}
    (idle : (stance t).hold = .nothing) (there : ∀ s, l = .session s → s < w.sessions.length) :
    Consistent m allows clean past (w.setLock l ((w.lock l).acquire t))
      (Function.update stance t ((stance t).holding (.queued l))) := by
  have away : ∀ l', (stance t).hold.at l' = .away := fun l' => by rw [idle]; rfl
  cases l with
  | provider =>
    refine h.offSession rfl rfl (by simp [World.setLock, World.lock]) (fun _ => rfl)
      (.of_eq rfl rfl rfl rfl) ?_ h.shared h.creations (fun s => by rw [away]; rfl) (fun _ => rfl)
      ⟨(h.sound t).known, (h.sound t).made, trivial, (h.sound t).served⟩
    have on : (w.setLock .provider ((w.lock .provider).acquire t)).lock .provider =
        (w.lock .provider).acquire t := Lock.on_of_loop (by simp [World.setLock, World.lock])
    rw [on, comp_at_update_same Place.holds (by rw [away]; rfl), comp_at_update Place.awaits]
    exact h.provided.acquire (by rw [away]; rfl) (by rw [away]; rfl)
  | session s =>
    obtain ⟨session, e, fits⟩ := h.fits (there s rfl)
    have r := World.revised_updateSession e fun x =>
      { x with lock := (session.lock.on w.loop).acquire t }
    rw [World.lock_session e]
    refine h.onSession_holding r ?_ (fun l other => ?_)
      (Nat.lt_of_lt_of_le (there s rfl) r.grows.sessions)
    · rw [Hold.at_queued_self]
      exact fits.acquire (away _)
    · rw [away, Hold.at_queued_other other]

/-- A task that waits for a lock is its holder, and notices. -/
theorem granted (h : Consistent m allows clean past w stance) {l : LockName}
    (queued : (stance t).hold = .queued l) (handed : (w.lock l).holder = some t) :
    Consistent m allows clean past w (Function.update stance t ((stance t).holding l.held)) := by
  have sound := (h.sound t).hold
  rw [queued] at sound
  cases l with
  | provider =>
    refine h.offSession rfl rfl h.current (fun _ => rfl) (.of_eq rfl rfl rfl rfl) ?_ h.shared
      h.creations (fun s => by rw [queued]; rfl) (fun _ => rfl) ⟨(h.sound t).known,
        (h.sound t).made, trivial, (h.sound t).served⟩
    rw [comp_at_update Place.holds, comp_at_update Place.awaits]
    exact h.provided.granted handed
  | session s =>
    obtain ⟨session, e, fits⟩ := h.fits sound
    rw [World.lock_session e] at handed
    refine h.onSession_holding (World.revised_self e) ?_ (fun l other => ?_)
      ⟨sound, .none, fun _ => rfl⟩
    · rw [LockName.held, Hold.at_scope_self]
      exact fits.granted (by rw [queued, Hold.at_queued_self]) handed
    · rw [queued, LockName.held, Hold.at_scope_other other, Hold.at_queued_other other]

theorem release_provider (h : Consistent m allows clean past w stance)
    (inside : (stance t).hold.at .provider = .inside false [])
    (off : ∀ s, (stance t).hold.at (.session s) = .away) :
    Consistent m allows clean past (w.setLock .provider (w.lock .provider).release)
      (Function.update stance t ((stance t).holding .nothing)) := by
  refine h.offSession rfl rfl (by simp [World.setLock, World.lock]) (fun _ => rfl)
    (.of_eq rfl rfl rfl rfl) ?_ h.shared h.creations (fun s => (off s).symm) (fun _ => rfl)
    ⟨(h.sound t).known, (h.sound t).made, trivial, (h.sound t).served⟩
  have on : (w.setLock .provider (w.lock .provider).release).lock .provider =
      (w.lock .provider).release :=
    Lock.on_of_loop (by simp [World.setLock, World.lock])
  rw [on, comp_at_update Place.holds, comp_at_update_same Place.awaits (by rw [inside]; rfl)]
  exact h.provided.release (by rw [inside]; rfl) (by rw [inside]; rfl)

/-- A task gives back the lock of a session whose scope it does not own. -/
theorem release_session (h : Consistent m allows clean past w stance)
    (hold : (stance t).hold = .scope s false 0 []) :
    Consistent m allows clean past (w.setLock (.session s) (w.lock (.session s)).release)
      (Function.update stance t ((stance t).holding .nothing)) := by
  have sound := (h.sound t).hold
  rw [hold] at sound
  obtain ⟨session, e, fits⟩ := h.fits sound.1
  rw [World.lock_session e]
  have r := World.revised_updateSession e fun x =>
    { x with lock := (session.lock.on w.loop).release }
  refine h.onSession_holding r ?_ (fun l other => ?_) trivial
  · exact fits.release (by rw [hold, Hold.at_scope_self])
  · rw [hold, Hold.at_scope_other other, Hold.at_nothing]

theorem setOwner (h : Consistent m allows clean past w stance) {owner : Bool}
    (hold : (stance t).hold = .scope s owner 0 []) (owner' : Bool) :
    Consistent m allows clean past (w.setOwner s (if owner' then some t else none))
      (Function.update stance t ((stance t).holding (.scope s owner' 0 []))) := by
  have sound := (h.sound t).hold
  rw [hold] at sound
  obtain ⟨session, e, fits⟩ := h.fits sound.1
  have r := World.revised_updateSession e fun x =>
    { x with owner := if owner' then some t else none }
  refine h.onSession_holding r ?_ (fun l other => ?_)
    ⟨Nat.lt_of_lt_of_le sound.1 r.grows.sessions, .none, fun _ => rfl⟩
  · rw [Hold.at_scope_self]
    exact fits.setOwner (by rw [hold, Hold.at_scope_self]) owner'
  · rw [hold, Hold.at_scope_other other, Hold.at_scope_other other]

/-! ## Calls -/

/-- The owner of a scope has made a call; the reply is allowed. -/
theorem called (h : Consistent m allows clean past w stance) (keeps : m.Keeps allows clean)
    {n : Nat} {calls : List Call} (hold : (stance t).hold = .scope s true n calls) (c : Call)
    (first : n = 0 → c = .push) :
    ∃ session, w.sessions[s]? = some session ∧
      allows calls c (m.backend.respond c session.backend).1 ∧
      ({ session with backend := (m.backend.respond c session.backend).2 }).Fits m.backend clean
        (past s) (w.callsOn s ++ [(t, c)]) w.loop
        (Function.update (fun u => (stance u).hold.at (.session s)) t (.inside true (calls ++ [c])))
        fun u => (stance u).madeOn s := by
  have sound := (h.sound t).hold
  rw [hold] at sound
  obtain ⟨session, e, fits⟩ := h.fits sound.1
  have inside : (stance t).hold.at (.session s) = .inside true calls := by
    rw [hold, Hold.at_scope_self]
  obtain ⟨state, isClean, backend⟩ := fits.backend_eq inside
  refine ⟨session, e, ?_, fits.call inside c⟩
  rw [backend]
  exact keeps.reply isClean sound.2.1 first

theorem call (h : Consistent m allows clean past w stance) (keeps : m.Keeps allows clean)
    {n n' : Nat} {calls : List Call} (hold : (stance t).hold = .scope s true n calls) {c : Call}
    (first : n = 0 → c = .push) (opened : Opened n' (calls ++ [c])) :
    allows calls c (w.call m.backend t s c).1 ∧
      Consistent m allows clean past (w.call m.backend t s c).2
        (Function.update stance t ((stance t).holding (.scope s true n' (calls ++ [c])))) := by
  obtain ⟨session, e, allowed, fits⟩ := h.called keeps hold c first
  have r := World.revised_call m.backend t c e
  have calls_eq : (w.call m.backend t s c).2.callsOn s = w.callsOn s ++ [(t, c)] := by
    rw [World.callsOn_called (by rw [World.call_eq m.backend t c e]), if_pos rfl]
  refine ⟨by rwa [World.call_eq m.backend t c e], h.onSession_holding r ?_ (fun l other => ?_)
    ⟨?_, opened, fun impossible => nomatch impossible⟩⟩
  · rw [Hold.at_scope_self, calls_eq]
    exact fits
  · rw [hold, Hold.at_scope_other other, Hold.at_scope_other other]
  · exact Nat.lt_of_lt_of_le (World.lt_of_session e) r.grows.sessions

/-- The owner of a scope drops the only frame that it has open, and so completes a block. -/
theorem call_last (h : Consistent m allows clean past w stance) (keeps : m.Keeps allows clean)
    {calls : List Call} (hold : (stance t).hold = .scope s true 1 calls) :
    allows calls .pop (w.call m.backend t s .pop).1 ∧
      Consistent m allows clean past (w.call m.backend t s .pop).2
        (Function.update stance t ((stance t).popped s 0 calls)) := by
  have sound := (h.sound t).hold
  rw [hold] at sound
  obtain ⟨session, e, allowed, fits⟩ := h.called keeps hold .pop nofun
  have r := World.revised_call m.backend t .pop e
  have calls_eq : (w.call m.backend t s .pop).2.callsOn s = w.callsOn s ++ [(t, .pop)] := by
    rw [World.callsOn_called (by rw [World.call_eq m.backend t .pop e]), if_pos rfl]
  have isBlock : IsBlock (calls ++ [.pop]) := sound.2.1.isBlock
  have old := (h.sound t).grow r.grows
  refine ⟨by rwa [World.call_eq m.backend t .pop e], h.onSession r ?_ (fun l other => ?_)
    (fun s' other => ?_) ⟨?_, ?_, ⟨?_, .none, fun _ => rfl⟩, old.served⟩⟩
  · have done := fits.complete (Function.update_self t _ _) isBlock fun state isClean =>
      keeps.block isClean isBlock
    rw [Function.update_idem] at done
    rw [calls_eq]
    simpa [Stance.popped, Stance.madeOn] using done
  · rw [hold, Hold.at_scope_other other]
    exact Hold.at_scope_other other true 0 []
  · simp [Stance.popped, Stance.madeOn, Ne.symm other]
  · exact old.known
  · intro v hv
    rcases List.mem_append.1 hv with hv | hv
    · exact old.made v hv
    · rw [List.mem_singleton.1 hv]
      exact World.lt_of_session r.session
  · exact World.lt_of_session r.session

theorem startCheck (h : Consistent m allows clean past w stance) (keeps : m.Keeps allows clean)
    {n : Nat} {calls : List Call} (hold : (stance t).hold = .scope s true (n + 1) calls)
    (τ : Timeout) :
    Consistent m allows clean past (w.startCheck m.backend t s τ).2 (Function.update stance t
      ((stance t).holding (.checking s (n + 1) calls τ (w.startCheck m.backend t s τ).1))) := by
  have sound := (h.sound t).hold
  rw [hold] at sound
  obtain ⟨session, e, allowed, fits⟩ := h.called keeps hold (.check τ) nofun
  have r := World.revised_startCheck m.backend t τ e
  have calls_eq : (w.startCheck m.backend t s τ).2.callsOn s = w.callsOn s ++ [(t, .check τ)] := by
    rw [World.callsOn_called (by rw [World.startCheck_eq m.backend t τ e]), if_pos rfl]
  refine h.onSession_holding r ?_ (fun l other => ?_)
    ⟨World.lt_of_session r.session, Nat.succ_pos n, sound.2.1, ?_⟩
  · rw [Hold.at_checking_self, calls_eq]
    exact ⟨fits.current, fits.lock, fits.owner, fits.backend, fits.record⟩
  · rw [hold, Hold.at_scope_other other, Hold.at_checking_other other]
  · rw [World.startCheck_eq m.backend t τ e]
    exact ⟨_, List.getElem?_concat_length, allowed⟩

/-! ## Sessions -/

theorem startCreation (h : Consistent m allows clean past w stance) (keeps : m.Keeps allows clean)
    (hold : (stance t).hold = .provider) :
    Consistent m allows clean past (w.startCreation m).2
      (Function.update stance t ((stance t).holding (.creating (w.startCreation m).1))) := by
  have sound := h.sound t
  have started : Consistent m allows clean past { w with creations := w.creations ++ [none] }
      (Function.update stance t ((stance t).holding (.creating w.creations.length))) := by
    have grows : w.Grows { w with creations := w.creations ++ [none] } :=
      ⟨Nat.le_refl _, by simp, id, fun c check e => ⟨check, e, rfl⟩⟩
    have place : ∀ l, (Hold.creating w.creations.length).at l = (stance t).hold.at l := fun l => by
      rw [hold]
      rfl
    refine h.offSession rfl rfl h.current (fun _ => rfl) grows
      (provided_elsewhere h.provided (place _)) h.shared (fun c outcome e => ?_) (fun s => place _)
        (fun _ => rfl)
      ((sound.grow grows).holding (by simp [Hold.Sound]))
    rcases Nat.lt_or_ge c w.creations.length with old | new
    · exact h.creations c outcome ((List.getElem?_append_left old).symm.trans e)
    · rw [List.getElem?_append_right new] at e
      cases i : c - w.creations.length <;> simp [i] at e
  cases e : m.create w.creations.length with
  | none => simpa only [World.startCreation, e] using started
  | some outcome =>
    obtain ⟨state, isClean, rfl⟩ := keeps.create e
    simpa only [World.startCreation, e] using started.deliver isClean w.creations.length

theorem install (h : Consistent m allows clean past w stance) (t : TaskId)
    (there : s < w.sessions.length) (created : Nat) :
    Consistent m allows clean past { w with shared := some s, created := created }
      (Function.update stance t (stance t).serve) := by
  have grows : w.Grows { w with shared := some s, created := created } :=
    ⟨Nat.le_refl _, Nat.le_refl _, fun _ => rfl, fun c check e => ⟨check, e, rfl⟩⟩
  have sound := (h.sound t).grow grows
  refine h.offSession rfl rfl h.current (fun _ => rfl) grows (provided_elsewhere h.provided rfl)
    (fun s' e => ?_) h.creations (fun _ => rfl) (fun _ => rfl)
    ⟨sound.known, sound.made, sound.hold, fun _ => rfl⟩
  cases e
  exact there

theorem served (h : Consistent m allows clean past w stance) (t : TaskId)
    (there : w.shared = some s) :
    Consistent m allows clean past w (Function.update stance t ((stance t).meet s).serve) := by
  have met := h.meet (t := t) (h.shared s there)
  have sound := met.sound t
  rw [Function.update_self] at sound
  have serves : ((stance t).meet s).serve.Sound allows w :=
    ⟨sound.known, sound.made, sound.hold, by simp [there]⟩
  have seen := met.relabel (t := t) (by simp [Function.update_self])
    (by simp [Function.update_self, Stance.serve]) serves
  rwa [Function.update_idem] at seen

/-! ## All requests -/

theorem respond (h : Consistent m allows clean past w stance) {r : Request}
    {K : r.Response → Stance → Prop} (waits : (stance t).WaitsWith allows r K)
    {response : r.Response} (came : w.response? t r = some response) :
    ∃ st', K response st' ∧ Consistent m allows clean past w (Function.update stance t st') := by
  cases r with
  | acquire l =>
    obtain ⟨queued, wp⟩ := waits
    obtain ⟨handed, rfl⟩ : (w.lock l).holder = some t ∧ some () = response := by
      simpa [World.response?] using came
    refine ⟨(stance t).holding l.held, ?_, h.granted queued handed⟩
    cases l with
    | provider => exact wp.2
    | session s => exact wp.2.2
  | awaitCheck c =>
    obtain ⟨s, n, calls, τ, hold, wp⟩ := waits
    have sound := h.sound t
    rw [Stance.sound_iff, hold] at sound
    obtain ⟨known, made, ⟨there, -, opened, check, e, allowed⟩, served⟩ := sound
    obtain ⟨-, rfl⟩ : check.ended = true ∧ some check.answer = response := by
      simpa [World.response?, e] using came
    refine ⟨_, wp check.answer allowed, h.relabel (fun l => ?_) rfl
      ⟨known, made, ⟨there, opened.append (.check τ .nil), nofun⟩, served⟩⟩
    rw [hold]
    rfl
  | awaitCreation c =>
    obtain ⟨hold, wp⟩ := waits
    obtain ⟨outcome, e, rfl⟩ : ∃ outcome, w.creations[c]? = some (some outcome) ∧
        some outcome = response := by
      simp only [World.response?] at came
      split at came
      · next outcome e => exact ⟨outcome, e, by simpa using came⟩
      · cases came
    obtain ⟨s, there, rfl⟩ := h.creations c outcome e
    refine ⟨_, wp s, ?_⟩
    have met := h.meet (t := t) there
    have held : Consistent m allows clean past w (Function.update
        (Function.update stance t ((stance t).meet s)) t
            (((stance t).meet s).holding .provider)) := by
      have sound := met.sound t
      rw [Function.update_self] at sound
      refine met.relabel (fun l => ?_) (by simp) (sound.holding trivial)
      rw [Function.update_self, Stance.meet_hold, hold]
      rfl
    rwa [Function.update_idem] at held
  | release l | claim s | disclaim s | owns s | push s | pop s | add s a | startCheck s τ | shared
  | startCreation | install s | forget => exact waits.elim

/-- A request that keeps the rules keeps the invariant, and either is responded to as the rules
allow or leaves the task waiting. -/
theorem request (h : Consistent m allows clean past w stance) (keeps : m.Keeps allows clean)
    {r : Request} {K : r.Response → Stance → Prop} (wp : r.wp allows (stance t) K) :
    ∃ st', Consistent m allows clean past (w.request m t r).2 (Function.update stance t st') ∧
      match (w.request m t r).1 with
      | some response => K response st'
      | none => st'.WaitsWith allows r K := by
  cases r with
  | acquire l =>
    have idle : (stance t).hold = .nothing := by cases l <;> exact wp.1
    have there : ∀ s, l = .session s → s < w.sessions.length := by
      rintro s rfl
      exact (h.sound t).known s wp.2.1
    have asked := h.acquire idle there
    have waits : ((stance t).holding (.queued l)).WaitsWith allows (.acquire l) K := by
      refine ⟨rfl, ?_⟩
      rwa [Stance.holding_holding, ← idle, Stance.holding_self]
    simp only [World.request]
    cases came : (w.setLock l ((w.lock l).acquire t)).response? t (.acquire l) with
    | none => exact ⟨_, asked, waits⟩
    | some response =>
      obtain ⟨st', hK, done⟩ := asked.respond (by rwa [Function.update_self]) came
      rw [Function.update_idem] at done
      exact ⟨st', done, hK⟩
  | release l =>
    cases l with
    | provider =>
      exact ⟨_, h.release_provider (by rw [wp.1]; rfl) fun s => by rw [wp.1]; rfl, wp.2⟩
    | session s => exact ⟨_, h.release_session wp.1, wp.2⟩
  | claim s => exact ⟨_, h.setOwner wp.1 true, wp.2⟩
  | disclaim s => exact ⟨_, h.setOwner wp.1 false, wp.2⟩
  | owns s =>
    refine ⟨_, h.unchanged t, ?_⟩
    have same : (w.owner? s == some t) = (stance t).hold.owns s := h.owner_eq s t
    simp only [World.request, same]
    exact wp
  | push s =>
    obtain ⟨n, calls, hold, wp⟩ := wp
    have sound := (h.sound t).hold
    rw [hold] at sound
    obtain ⟨allowed, called⟩ := h.call keeps hold (c := .push) (fun _ => rfl) sound.2.1.push
    exact ⟨_, called, wp _ allowed⟩
  | pop s =>
    obtain ⟨n, calls, hold, wp⟩ := wp
    cases n with
    | zero =>
      obtain ⟨allowed, called⟩ := h.call_last keeps hold
      exact ⟨_, called, wp _ allowed⟩
    | succ n =>
      have sound := (h.sound t).hold
      rw [hold] at sound
      obtain ⟨allowed, called⟩ := h.call keeps hold (c := .pop) nofun sound.2.1.pop
      exact ⟨_, called, wp _ allowed⟩
  | add s a =>
    obtain ⟨n, calls, hold, wp⟩ := wp
    have sound := (h.sound t).hold
    rw [hold] at sound
    obtain ⟨allowed, called⟩ := h.call keeps hold (c := .add a) nofun
      (sound.2.1.append (.add a .nil))
    exact ⟨_, called, wp _ allowed⟩
  | startCheck s τ =>
    obtain ⟨n, calls, hold, wp⟩ := wp
    exact ⟨_, h.startCheck keeps hold τ, wp _⟩
  | awaitCheck c =>
    simp only [World.request]
    cases came : w.response? t (.awaitCheck c) with
    | none => exact ⟨_, h.unchanged t, wp⟩
    | some response =>
      obtain ⟨st', hK, done⟩ := h.respond (r := .awaitCheck c) wp came
      exact ⟨st', done, hK⟩
  | awaitCreation c =>
    simp only [World.request]
    cases came : w.response? t (.awaitCreation c) with
    | none => exact ⟨_, h.unchanged t, wp⟩
    | some response =>
      obtain ⟨st', hK, done⟩ := h.respond (r := .awaitCreation c) wp came
      exact ⟨st', done, hK⟩
  | shared =>
    cases e : w.shared with
    | none =>
      have unserved : (stance t).served = false := Bool.eq_false_iff.2 fun seen => by
        simpa [e] using (h.sound t).served seen
      exact ⟨_, h.unchanged t, by simpa [World.request, e] using wp.1 unserved⟩
    | some s => exact ⟨_, h.served t e, by simpa [World.request, e] using wp.2 s⟩
  | startCreation => exact ⟨_, h.startCreation keeps wp.1, wp.2 _⟩
  | install s => exact ⟨_, h.install t ((h.sound t).known s wp.1) _, wp.2⟩
  | forget => exact wp.elim

end Consistent

end RecordAudit
