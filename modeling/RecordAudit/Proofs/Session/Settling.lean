import RecordAudit.Proofs.Session.Interleaving
import RecordAudit.Session.Schedule

/-!
# Nothing waits forever

Once all checks and creations that were started have ended, a task waits for nothing but a lock, and
only while another task has it. So a task that is alone never waits, and among several some task can
always go on.
-/

namespace RecordAudit

variable {σ α : Type} {allows : Replies} {clean : σ → Prop}
  {past : SessionId → List (TaskId × Call)} {w : World σ} {stance : TaskId → Stance} {t : TaskId}

/-- Creations end with clean backends, whether at once or later. -/
structure Surroundings.Keeps (m : Surroundings σ) (allows : Replies) (clean : σ → Prop) : Prop where
  machine : m.toMachine.Keeps allows clean
  deliver : ∀ c, ∃ state, clean state ∧ m.deliver c = .ok state

namespace World

/-- All checks and creations that were started have ended. -/
structure Settled (w : World σ) : Prop where
  checks : ∀ (c : CheckId) (check : RunningCheck), w.checks[c]? = some check → check.ended = true
  creations : ∀ c : CreationId, w.creations[c]? ≠ some none

theorem creations_deliver (w : World σ) (c c' : CreationId) (state : σ) :
    (w.deliver c (.ok state)).creations[c']? = some none ↔
      w.creations[c']? = some none ∧ c' ≠ c := by
  refine w.deliver_cases c (.ok state) (fun closed => ?_) nofun fun _ opened _ => ?_
  · exact ⟨fun e => ⟨e, fun same => closed (same ▸ e)⟩, fun e => e.1⟩
  · simp only [List.getElem?_set]
    by_cases same : c = c'
    · subst same
      simp [(List.getElem?_eq_some_iff.1 opened).1]
    · simp [same, Ne.symm same]

theorem creations_endCheck (w : World σ) (c : CheckId) : (w.endCheck c).creations = w.creations :=
  w.endCheck_cases c (fun _ => rfl) fun _ _ _ => rfl

theorem checks_endCheck (w : World σ) (c c' : CheckId) :
    (w.endCheck c).checks[c']?.map (·.ended) = some false ↔
      w.checks[c']?.map (·.ended) = some false ∧ c' ≠ c := by
  refine w.endCheck_cases c (fun still => ?_) fun check there _ => ?_
  · exact ⟨fun running => ⟨running, fun same => still (same ▸ running)⟩, fun running => running.1⟩
  · simp only [List.getElem?_set]
    by_cases same : c = c'
    · subst same
      simp [lt_of_check there]
    · simp [same, Ne.symm same]

theorem creations_foldl_deliver (m : Surroundings σ) (keeps : m.Keeps allows clean)
    (cs : List CreationId) (w : World σ) (c : CreationId) :
    (cs.foldl (fun w c => w.deliver c (m.deliver c)) w).creations[c]? = some none ↔
      w.creations[c]? = some none ∧ c ∉ cs := by
  induction cs generalizing w with
  | nil => simp
  | cons c' rest ih =>
    obtain ⟨state, -, e⟩ := keeps.deliver c'
    rw [List.foldl_cons, ih, e, creations_deliver, List.mem_cons]
    tauto

theorem creations_foldl_endCheck (cs : List CheckId) (w : World σ) :
    (cs.foldl endCheck w).creations = w.creations := by
  induction cs generalizing w with
  | nil => rfl
  | cons c rest ih => rw [List.foldl_cons, ih, creations_endCheck]

theorem checks_foldl_endCheck (cs : List CheckId) (w : World σ) (c : CheckId) :
    (cs.foldl endCheck w).checks[c]?.map (·.ended) = some false ↔
      w.checks[c]?.map (·.ended) = some false ∧ c ∉ cs := by
  induction cs generalizing w with
  | nil => simp
  | cons c' rest ih =>
    rw [List.foldl_cons, ih, checks_endCheck, List.mem_cons]
    tauto

theorem mem_openCreations {c : CreationId} : c ∈ w.openCreations ↔ w.creations[c]? = some none := by
  simp only [openCreations, List.mem_filter, List.mem_range]
  constructor
  · rintro ⟨-, h⟩
    split at h <;> simp_all
  · intro h
    exact ⟨(List.getElem?_eq_some_iff.1 h).1, by rw [h]⟩

theorem mem_openChecks {c : CheckId} :
    c ∈ w.openChecks ↔ w.checks[c]?.map (·.ended) = some false := by
  simp only [openChecks, List.mem_filter, List.mem_range, beq_iff_eq]
  refine ⟨fun h => h.2, fun h => ⟨?_, h⟩⟩
  obtain ⟨check, e, -⟩ := Option.map_eq_some_iff.1 h
  exact lt_of_check e

theorem settled_settle {m : Surroundings σ} (keeps : m.Keeps allows clean) (w : World σ) :
    (w.settle m).Settled := by
  refine ⟨fun c check e => ?_, fun c e => ?_⟩
  · cases running : check.ended with
    | true => rfl
    | false =>
      have still : (w.settle m).checks[c]?.map (·.ended) = some false := by
        rw [e, Option.map_some, running]
      rw [settle, checks_foldl_endCheck, mem_openChecks] at still
      exact absurd still.1 still.2
  · rw [settle, creations_foldl_endCheck, creations_foldl_deliver m keeps, mem_openCreations] at e
    exact absurd e.1 e.2

end World

theorem Consistent.settle {m : Surroundings σ} (keeps : m.Keeps allows clean)
    (h : Consistent m.toMachine allows clean past w stance) :
    Consistent m.toMachine allows clean past (w.settle m) stance := by
  have delivered : ∀ (cs : List CreationId) (w : World σ),
      Consistent m.toMachine allows clean past w stance →
        Consistent m.toMachine allows clean past
            (cs.foldl (fun w c => w.deliver c (m.deliver c)) w) stance := by
    intro cs
    induction cs with
    | nil => exact fun w h => h
    | cons c rest ih =>
      intro w h
      obtain ⟨state, isClean, e⟩ := keeps.deliver c
      exact ih _ (by beta_reduce; rw [e]; exact h.deliver isClean c)
  have ended : ∀ (cs : List CheckId) (w : World σ),
      Consistent m.toMachine allows clean past w stance →
        Consistent m.toMachine allows clean past (cs.foldl World.endCheck w) stance := by
    intro cs
    induction cs with
    | nil => exact fun w h => h
    | cons c rest ih => exact fun w h => ih _ (h.endCheck c)
  exact ended _ _ (delivered _ _ h)

namespace Consistent

variable {m : Machine σ}

/-- A lock serves the tasks by where they stand towards it. -/
theorem serves (h : Consistent m allows clean past w stance) {l : LockName}
    (there : ∀ s, l = .session s → s < w.sessions.length) :
    (w.lock l).Serves (fun t => ((stance t).hold.at l).holds) fun t =>
      ((stance t).hold.at l).awaits := by
  cases l with
  | provider => exact h.provided
  | session s =>
    obtain ⟨session, e, fits⟩ := h.fits (there s rfl)
    rw [World.lock_session e]
    exact fits.lock

theorem there_of_queued (h : Consistent m allows clean past w stance) {l : LockName}
    (queued : (stance t).hold = .queued l) (s : SessionId) (e : l = .session s) :
    s < w.sessions.length := by
  have sound := (h.sound t).hold
  rwa [queued, e] at sound

/-- What keeps a task waiting in a settled world: another task has the lock that it waits for. -/
theorem unblocked (h : Consistent m allows clean past w stance) (settled : w.Settled) {r : Request}
    {K : r.Response → Stance → Prop} (waits : (stance t).WaitsWith allows r K) :
    (w.response? t r).isSome = true ∨
      ∃ l u, (stance t).hold = .queued l ∧ u ≠ t ∧ (w.lock l).holder = some u := by
  cases r with
  | acquire l =>
    have queued := waits.1
    have serves := h.serves (h.there_of_queued queued)
    cases e : (w.lock l).holder with
    | none =>
      have served := serves.served t (by rw [queued, Hold.at_queued_self]; rfl)
      simp [e, serves.idle e] at served
    | some u =>
      by_cases same : u = t
      · exact .inl (by simp [World.response?, e, same])
      · exact .inr ⟨l, u, queued, same, e⟩
  | awaitCheck c =>
    obtain ⟨s, n, calls, τ, hold, -⟩ := waits
    have sound := (h.sound t).hold
    rw [hold] at sound
    obtain ⟨-, -, -, check, e, -⟩ := sound
    exact .inl (by simp [World.response?, e, settled.checks c check e])
  | awaitCreation c =>
    have sound := (h.sound t).hold
    rw [waits.1] at sound
    cases e : w.creations[c]? with
    | none => exact absurd sound (Nat.not_lt.2 (List.getElem?_eq_none_iff.1 e))
    | some outcome =>
      cases outcome with
      | none => exact absurd e (settled.creations c)
      | some outcome => exact .inl (by simp [World.response?, e])
  | release l | claim s | disclaim s | owns s | push s | pop s | add s a | startCheck s τ | shared
  | startCreation | install s | forget => exact waits.elim

end Consistent

/-! ## A task alone -/

/-- A program that keeps the rules ends as wished when it is the only one. -/
theorem World.runAlone_fits {m : Surroundings σ} (keeps : m.Keeps allows clean) {p : Program α}
    {Q : α → Stance → Prop} (h : Consistent m.toMachine allows clean past w stance)
    (alone : ∀ u ≠ t, (stance u).hold = .nothing) (wp : p.wp allows (stance t) Q) :
    ∃ a st', (w.runAlone m t p).1 = some a ∧ Q a st' ∧
      Consistent m.toMachine allows clean past (w.runAlone m t p).2
        (Function.update stance t st') := by
  induction p generalizing w stance with
  | done a => exact ⟨a, stance t, rfl, wp, h.unchanged t⟩
  | ask r next ih =>
    have others : ∀ st', ∀ u ≠ t, (Function.update stance t st' u).hold =
        .nothing := fun st' u other => by
      rw [Function.update_of_ne other]
      exact alone u other
    obtain ⟨st', after, went⟩ := h.request keeps.machine wp
    rw [World.runAlone]
    split
    · next response w' e =>
      rw [e] at after went
      obtain ⟨a, st'', ended, wish, done⟩ :=
        ih response after (others st') (by rwa [Function.update_self])
      exact ⟨a, st'', ended, wish, by rwa [Function.update_idem] at done⟩
    · next w' e =>
      rw [e] at after went
      have settled := after.settle keeps
      have waits : (Function.update stance t st' t).WaitsWith allows r
          fun response st => (next response).wp allows st Q := by
        rw [Function.update_self]
        exact went
      dsimp only
      split
      · next response came =>
        obtain ⟨st'', wp, granted⟩ := settled.respond waits came
        rw [Function.update_idem] at granted
        obtain ⟨a, st3, ended, wish, done⟩ :=
          ih response granted (others st'') (by rwa [Function.update_self])
        exact ⟨a, st3, ended, wish, by rwa [Function.update_idem] at done⟩
      · next came =>
        rcases settled.unblocked (World.settled_settle keeps w') waits with come |
          ⟨l, u, queued, other, holder⟩
        · simp [came] at come
        · have serves := (settled.serves (settled.there_of_queued queued)).holder u holder
          rw [others st' u other, Hold.at_nothing] at serves
          simp [Place.holds, Place.awaits] at serves

end RecordAudit
