import RecordAudit.Proofs.Session.Cancellation
import RecordAudit.Proofs.Session.Results
import RecordAudit.Proofs.Session.Settling

/-!
# Tasks attend to their checks

The history of a world with one session tells which checks were started and which have ended. As
long as there is for every running check a task that waits for it, and so is inside the session,
whoever makes a call is inside too and waits for nothing, and then no check runs. What a task does
keeps it so, also where it is cancelled.
-/

namespace RecordAudit

variable {σ α : Type} {m : Machine σ} {allows : Replies} {clean : σ → Prop}
  {past : SessionId → List (TaskId × Call)} {w w' : World σ} {stance : TaskId → Stance}
  {t : TaskId} {st : Stance}

/-! ## Histories -/

/-- Whether the occurrence is the start of a check. -/
def Occurrence.startsCheck : Occurrence → Bool
  | .called _ _ (.check _) => true
  | _ => false

def checksStarted (history : List Occurrence) : Nat := history.countP Occurrence.startsCheck

/-- Whenever a call is made, all checks that were started before have ended. -/
def Undisturbed (history : List Occurrence) : Prop :=
  ∀ later t s call earlier, history = later ++ .called t s call :: earlier →
    ∀ c < checksStarted earlier, .ended c ∈ earlier

theorem Undisturbed.nil : Undisturbed [] := by
  intro later t s call earlier e
  simp at e

theorem Undisturbed.ended {history : List Occurrence} (h : Undisturbed history) (c : CheckId) :
    Undisturbed (.ended c :: history) := by
  intro later t s call earlier e
  cases later with
  | nil => cases e
  | cons first later => exact h later t s call earlier (List.cons.inj e).2

theorem Undisturbed.called {history : List Occurrence} (h : Undisturbed history)
    (ended : ∀ c < checksStarted history, .ended c ∈ history) (t : TaskId) (s : SessionId)
    (call : Call) :
    Undisturbed (.called t s call :: history) := by
  intro later t' s' call' earlier e
  cases later with
  | nil =>
    obtain ⟨-, rfl⟩ := List.cons.inj e
    exact ended
  | cons first later => exact h later t' s' call' earlier (List.cons.inj e).2

namespace World

/-- One session, and a history that tells of all checks. -/
structure Logged (w : World σ) : Prop where
  alone : w.sessions.length = 1
  created : w.creations = []
  started : w.checks.length = checksStarted w.history
  ended : ∀ (c : CheckId) (check : RunningCheck), w.checks[c]? = some check → check.ended = true →
    .ended c ∈ w.history
  undisturbed : Undisturbed w.history

namespace Logged

/-- What leaves the checks and the history as they are. -/
theorem same (h : w.Logged) (sessions : w'.sessions.length = w.sessions.length)
    (creations : w'.creations = w.creations) (checks : w'.checks = w.checks)
    (history : w'.history = w.history) : w'.Logged where
  alone := sessions.trans h.alone
  created := creations.trans h.created
  started := by rw [checks, history, h.started]
  ended := by
    rw [checks, history]
    exact h.ended
  undisturbed := by
    rw [history]
    exact h.undisturbed

theorem allEnded (h : w.Logged) (idle : ∀ c, c ∉ w.openChecks) :
    ∀ c < checksStarted w.history, .ended c ∈ w.history := by
  intro c lt
  rw [← h.started] at lt
  have there := List.getElem?_eq_getElem lt
  cases ended : w.checks[c].ended with
  | true => exact h.ended c _ there ended
  | false => exact absurd (mem_openChecks.2 (by rw [there, Option.map_some, ended])) (idle c)

/-- A call other than a check, while no check runs. -/
theorem call (h : w.Logged) (idle : ∀ c, c ∉ w.openChecks) (b : Backend σ) (t : TaskId)
    {s : SessionId} {session : SessionState σ} (there : w.sessions[s]? = some session) {c : Call}
    (other : ∀ τ, c ≠ .check τ) :
    (w.call b t s c).2.Logged := by
  rw [call_eq b t c there]
  have silent : Occurrence.startsCheck (.called t s c) = false := by
    cases c with
    | check τ => exact absurd rfl (other τ)
    | push | pop | add => rfl
  refine ⟨by simpa using h.alone, h.created, ?_, fun c check e ended => ?_,
    h.undisturbed.called (h.allEnded idle) t s c⟩
  · simpa [checksStarted, silent] using h.started
  · exact List.mem_cons_of_mem _ (h.ended c check e ended)

/-- The start of a check, while no other check runs. -/
theorem startCheck (h : w.Logged) (idle : ∀ c, c ∉ w.openChecks) (b : Backend σ) (t : TaskId)
    (τ : Timeout) {s : SessionId} {session : SessionState σ}
    (there : w.sessions[s]? = some session) :
    (w.startCheck b t s τ).2.Logged := by
  rw [startCheck_eq b t τ there]
  refine ⟨by simpa using h.alone, h.created, ?_, fun c check e ended => ?_,
    h.undisturbed.called (h.allEnded idle) t s _⟩
  · rw [List.length_append, h.started]
    exact (List.countP_cons_of_pos rfl).symm
  · rcases getElem?_concat_cases e with old | ⟨-, rfl⟩
    · exact List.mem_cons_of_mem _ (h.ended c check old ended)
    · cases ended

end Logged

end World

/-! ## Tasks attend to their checks -/

def Hold.WaitsFor (c : CheckId) : Hold → Prop
  | .checking _ _ _ _ c' => c' = c
  | _ => False

/-- The world is consistent with where the tasks stand, and for every check that runs there is a
task that waits for it. -/
structure World.Attended (m : Machine σ) (allows : Replies) (clean : σ → Prop)
    (past : SessionId → List (TaskId × Call)) (w : World σ) (stance : TaskId → Stance) : Prop where
  consistent : Consistent m allows clean past w stance
  logged : w.Logged
  attended : ∀ c ∈ w.openChecks, ∃ t, (stance t).hold.WaitsFor c

namespace World.Attended

/-- While a task is in the scope and waits for no check, no check runs. -/
theorem no_check (h : w.Attended m allows clean past stance) {s : SessionId} {owner : Bool}
    {n : Nat} {calls : List Call} (hold : (stance t).hold = .scope s owner n calls) (c : CheckId) :
    c ∉ w.openChecks := by
  intro opened
  obtain ⟨u, waits⟩ := h.attended c opened
  have here := (h.consistent.sound t).hold
  have there := (h.consistent.sound u).hold
  cases checking : (stance u).hold with
  | checking s' n' calls' τ c' =>
    rw [hold] at here
    rw [checking] at there
    have lt : s < w.sessions.length := here.1
    have lt' : s' < w.sessions.length := there.1
    obtain rfl : s' = s := by
      rw [h.logged.alone, Nat.lt_one_iff] at lt lt'
      exact lt'.trans lt.symm
    -- Both are inside the only session, and no two tasks are.
    obtain ⟨session, -, fits⟩ := h.consistent.fits here.1
    have same : u = t := fits.alone (by rw [hold, Hold.at_scope_self])
      (by rw [checking, Hold.at_checking_self]; rfl)
    rw [same, hold] at checking
    cases checking
  | nothing | queued | provider | creating | scope =>
    rw [checking] at waits
    exact waits

theorem there (h : w.Attended m allows clean past stance) {c : CheckId}
    (waits : (stance t).hold.WaitsFor c) :
    c < w.checks.length := by
  have sound := (h.consistent.sound t).hold
  cases hold : (stance t).hold with
  | checking s n calls τ c' =>
    rw [hold] at sound waits
    obtain ⟨-, -, -, check, e, -⟩ := sound
    exact waits ▸ lt_of_check e
  | nothing | queued | provider | creating | scope =>
    rw [hold] at waits
    exact waits.elim

theorem move (h : w.Attended m allows clean past stance)
    (consistent : Consistent m allows clean past w' (Function.update stance t st))
    (logged : w'.Logged) (opened : ∀ c ∈ w'.openChecks, c ∈ w.openChecks ∧
      ((stance t).hold.WaitsFor c → st.hold.WaitsFor c)) :
    w'.Attended m allows clean past (Function.update stance t st) := by
  refine ⟨consistent, logged, fun c running => ?_⟩
  obtain ⟨before, keeps⟩ := opened c running
  obtain ⟨u, waits⟩ := h.attended c before
  by_cases same : u = t
  · exact ⟨t, by rw [Function.update_self]; exact keeps (same ▸ waits)⟩
  · exact ⟨u, by rwa [Function.update_of_ne same]⟩

/-- Nothing but the place of one task has changed. -/
theorem settle (h : w.Attended m allows clean past stance)
    (consistent : Consistent m allows clean past w' (Function.update stance t st))
    (sessions : w'.sessions.length = w.sessions.length) (creations : w'.creations = w.creations)
    (checks : w'.checks = w.checks) (history : w'.history = w.history)
    (keeps : ∀ c ∈ w.openChecks, (stance t).hold.WaitsFor c → st.hold.WaitsFor c) :
    w'.Attended m allows clean past (Function.update stance t st) := by
  refine h.move consistent (h.logged.same sessions creations checks history) fun c running => ?_
  rw [mem_openChecks, checks, ← mem_openChecks] at running
  exact ⟨running, keeps c running⟩

theorem called (h : w.Attended m allows clean past stance) {s : SessionId} {owner : Bool} {n : Nat}
    {calls : List Call} (hold : (stance t).hold = .scope s owner n calls) {c : Call}
    (consistent : Consistent m allows clean past (w.call m.backend t s c).2
    (Function.update stance t st)) (other : ∀ τ, c ≠ .check τ) :
    (w.call m.backend t s c).2.Attended m allows clean past (Function.update stance t st) := by
  have sound := (h.consistent.sound t).hold
  rw [hold] at sound
  obtain ⟨session, there⟩ := World.exists_session sound.1
  refine h.move consistent (h.logged.call (h.no_check hold) m.backend t there other)
    fun c running => ?_
  rw [mem_openChecks, call_eq m.backend t _ there, ← mem_openChecks] at running
  exact absurd running (h.no_check hold c)

theorem startCheck (h : w.Attended m allows clean past stance) (keeps : m.Keeps allows clean)
    {s : SessionId} {n : Nat} {calls : List Call}
    (hold : (stance t).hold = .scope s true (n + 1) calls) (τ : Timeout) :
    (w.startCheck m.backend t s τ).2.Attended m allows clean past (Function.update stance t
      ((stance t).holding (.checking s (n + 1) calls τ (w.startCheck m.backend t s τ).1))) := by
  have sound := (h.consistent.sound t).hold
  rw [hold] at sound
  obtain ⟨session, there⟩ := World.exists_session sound.1
  refine ⟨h.consistent.startCheck keeps hold τ, h.logged.startCheck (h.no_check hold) m.backend t τ
    there, fun c running => ⟨t, ?_⟩⟩
  rw [Function.update_self, startCheck_eq m.backend t τ there]
  rw [mem_openChecks, startCheck_eq m.backend t τ there, Option.map_eq_some_iff] at running
  obtain ⟨check, e, running⟩ := running
  rcases getElem?_concat_cases e with old | ⟨new, -⟩
  · exact absurd (mem_openChecks.2 (by rw [old, Option.map_some, running])) (h.no_check hold c)
  · exact new.symm

theorem request (h : w.Attended m allows clean past stance) (keeps : m.Keeps allows clean)
    {r : Request} {K : r.Response → Stance → Prop} (wp : r.wp allows (stance t) K)
    (isUse : r.OnSession) :
    ∃ st' response, (w.request m t r).1 = some response ∧ K response st' ∧
      (w.request m t r).2.Attended m allows clean past (Function.update stance t st') := by
  obtain ⟨st', after, went⟩ := h.consistent.request keeps wp
  cases r with
  | release l =>
    cases l with
    | provider => exact isUse.elim
    | session s =>
      refine ⟨st', _, rfl, went, h.settle after ?_ rfl rfl rfl fun c running => ?_⟩
      · simp [World.request, World.setLock, World.updateSession]
      · exact absurd running (h.no_check wp.1 c)
  | claim s | disclaim s =>
    refine ⟨st', _, rfl, went, h.settle after ?_ rfl rfl rfl fun c running => ?_⟩
    · simp [World.request, World.setOwner, World.updateSession]
    · exact absurd running (h.no_check wp.1 c)
  | owns s =>
    refine ⟨stance t, _, rfl, ?_, h.settle (h.consistent.unchanged t) rfl rfl rfl rfl
      fun c _ waits => waits⟩
    have same : (w.owner? s == some t) = (stance t).hold.owns s := h.consistent.owner_eq s t
    rw [same]
    exact wp
  | push s | pop s | add s a =>
    obtain ⟨n, calls, hold, -⟩ := wp
    exact ⟨st', _, rfl, went, h.called hold after fun _ same => by cases same⟩
  | startCheck s τ =>
    obtain ⟨n, calls, hold, wp⟩ := wp
    exact ⟨_, _, rfl, wp _, h.startCheck keeps hold τ⟩
  | acquire l | awaitCheck c | shared | startCreation | awaitCreation c | install s | forget =>
    exact isUse.elim

end World.Attended

/-! ## Waiting places -/

/-- The state of a task goes with its stance. Where the task waits, it may be cancelled, and goes on
as if it had asked again. -/
def TaskState.Endures (allows : Replies) : TaskState α → Stance → (left : Bool) → Prop
  | .unstarted p, st, _ => st.hold = .nothing ∧ p.Endures allows st false
  | .waiting (.acquire l) next _, st, _ =>
    st.hold = .queued l ∧ (Program.ask (.acquire l) next).Endures allows (st.holding .nothing) false
  | .waiting (.awaitCheck c) next _, st, left =>
    (Program.ask (.awaitCheck c) next).Endures allows st left
  | .waiting _ _ _, _, _ => False
  | .finished _, st, _ => st.hold = .nothing

namespace World.Attended

theorem respond (h : w.Attended m allows clean past stance) {r : Request} {response : r.Response}
    {next : r.Response → Program (Except Interrupt α)} {cancelled left : Bool}
    (endures : (TaskState.waiting r next cancelled).Endures allows (stance t) left)
    (came : w.response? t r = some response) :
    ∃ st', (next response).Endures allows st' false ∧
      w.Attended m allows clean past (Function.update stance t st') := by
  cases r with
  | acquire l =>
    obtain ⟨st', went, after⟩ :=
      h.consistent.respond (r := .acquire l) ⟨endures.1, endures.2.1⟩ came
    refine ⟨st', went, h.settle after rfl rfl rfl rfl fun c _ waits => ?_⟩
    rw [endures.1] at waits
    exact waits.elim
  | awaitCheck c =>
    obtain ⟨st', went, after⟩ := h.consistent.respond (t := t) (r := .awaitCheck c)
      (K := fun response st' => (next response).Endures allows st' false) endures.1 came
    refine ⟨st', went, h.settle after rfl rfl rfl rfl fun c' running waits => ?_⟩
    obtain ⟨s, n, calls, τ, hold, -⟩ := endures.1
    rw [hold] at waits
    obtain rfl : c = c' := waits
    obtain ⟨check, e, running⟩ := Option.map_eq_some_iff.1 (mem_openChecks.1 running)
    simp [World.response?, e, running] at came
  | release l | claim s | disclaim s | owns s | push s | pop s | add s a | startCheck s τ |
      shared | startCreation
  | awaitCreation c | install s | forget => exact endures.elim

theorem ask (h : w.Attended m allows clean past stance) (keeps : m.Keeps allows clean) {r : Request}
    {next : r.Response → Program (Except Interrupt α)} {left : Bool}
    (endures : (Program.ask r next).Endures allows (stance t) left) :
    ∃ st', (w.request m t r).2.Attended m allows clean past (Function.update stance t st') ∧
      match (w.request m t r).1 with
      | some response => (next response).Endures allows st' false
      | none => ∃ left', (TaskState.waiting r next false).Endures allows st' left' ∧
          (left' = true → left = true ∧ st' = stance t) := by
  cases r with
  | acquire l =>
    cases l with
    | provider => exact endures.2.elim
    | session s =>
      have idle : (stance t).hold = .nothing := endures.1.1
      have there : ∀ s', LockName.session s = .session s' → s' < w.sessions.length := by
        rintro s' ⟨⟩
        exact (h.consistent.sound t).known s endures.1.2.1
      have asked : (w.setLock (.session s) ((w.lock (.session s)).acquire t)).Attended m allows
          clean past (Function.update stance t ((stance t).holding (.queued (.session s)))) := by
        refine h.settle (h.consistent.acquire idle there) ?_ rfl rfl rfl fun c _ waits => ?_
        · simp [World.setLock, World.updateSession]
        · rw [idle] at waits
          exact waits.elim
      have back : (((stance t).holding (.queued (.session s))).holding .nothing) = stance t := by
        rw [Stance.holding_holding, ← idle, Stance.holding_self]
      have waiting : (TaskState.waiting (.acquire (.session s)) next false).Endures allows
          ((stance t).holding (.queued (.session s))) false := ⟨rfl, by rw [back]; exact endures⟩
      simp only [World.request]
      cases came : (w.setLock (.session s) ((w.lock (.session s)).acquire t)).response? t
          (.acquire (.session s)) with
      | none => exact ⟨_, asked, false, waiting, fun stays => absurd stays Bool.false_ne_true⟩
      | some response =>
        obtain ⟨st', went, after⟩ := asked.respond (by rwa [Function.update_self]) came
        rw [Function.update_idem] at after
        exact ⟨st', after, went⟩
  | awaitCheck c =>
    simp only [World.request]
    cases came : w.response? t (.awaitCheck c) with
    | none => exact ⟨_, by rwa [Function.update_eq_self], left, endures, fun same => ⟨same, rfl⟩⟩
    | some response =>
      have waiting : (TaskState.waiting (.awaitCheck c) next false).Endures allows (stance t)
        left := endures
      obtain ⟨st', went, after⟩ := h.respond waiting came
      exact ⟨st', after, went⟩
  | shared | startCreation | awaitCreation c | install s | forget => exact endures.2.elim
  | release l | claim s | disclaim s | owns s | push s | pop s | add s a | startCheck s τ =>
    obtain ⟨st', response, came, went, after⟩ := h.request keeps endures.1 endures.2
    exact ⟨st', after, by rw [came]; exact went⟩

/-- A task that is cancelled while it waits goes on without an answer. Once it has been left without
the answer of a check, it may be left so again only when the check has ended. -/
theorem interrupt (h : w.Attended m allows clean past stance) {r : Request} {response : r.Response}
    {next : r.Response → Program (Except Interrupt α)} {left : Bool}
    (endures : (TaskState.waiting r next true).Endures allows (stance t) left)
    (cancelled : w.cancelled? t r = some (response, w'))
    (patient : left = true → ∀ c, r = .awaitCheck c → c ∉ w.openChecks) :
    ∃ st' left', (next response).Endures allows st' left' ∧
      w'.Attended m allows clean past (Function.update stance t st') ∧
      (left' = true → st' = stance t ∧ ∃ c, r = .awaitCheck c) := by
  cases r with
  | acquire l =>
    cases l with
    | provider => exact endures.2.2.elim
    | session s =>
      obtain ⟨queued, -, went⟩ := endures
      obtain ⟨rfl, rfl⟩ := Prod.mk.inj (Option.some.inj cancelled)
      refine ⟨_, false, went, h.settle (h.consistent.abandon queued) ?_ rfl rfl rfl fun c _ waits =>
        ?_, fun stays => absurd stays Bool.false_ne_true⟩
      · simp [World.setLock, World.updateSession]
      · rw [queued] at waits
        exact waits.elim
  | awaitCheck c =>
    obtain ⟨rfl, rfl⟩ := Prod.mk.inj (Option.some.inj cancelled)
    obtain ⟨⟨s, n, calls, τ, hold, -⟩, went⟩ := endures
    cases left with
    | false =>
      exact ⟨stance t, true, went, by rwa [Function.update_eq_self], fun _ => ⟨rfl, c, rfl⟩⟩
    | true =>
      -- The task leaves for good, and with it the check counts as one of the calls in its scope.
      have sound := h.consistent.sound t
      rw [Stance.sound_iff, hold] at sound
      obtain ⟨known, made, ⟨there, -, opened, -⟩, served⟩ := sound
      refine ⟨_, false, went s (n + 1) calls τ hold,
        h.settle (h.consistent.relabel (fun l => ?_) rfl ⟨known, made,
          ⟨there, opened.append (.check τ .nil), fun same => by cases same⟩, served⟩)
            rfl rfl rfl rfl
        fun c' running waits => ?_, fun stays => absurd stays Bool.false_ne_true⟩
      · rw [hold]
        rfl
      · rw [hold] at waits
        obtain rfl : c = c' := waits
        exact absurd running (patient rfl c rfl)
  | release l | claim s | disclaim s | owns s | push s | pop s | add s a | startCheck s τ |
      shared | startCreation
  | awaitCreation c | install s | forget => exact endures.elim

end World.Attended

/-- A program that endures goes on to a waiting place where it does, or to the end. -/
theorem Program.advance_endures (keeps : m.Keeps allows clean) {p : Program (Except Interrupt α)}
    {left : Bool} (h : w.Attended m allows clean past stance)
    (endures : p.Endures allows (stance t) left) :
    ∃ st' left', (p.advance m t w).1.Endures allows st' left' ∧
      (p.advance m t w).2.Attended m allows clean past (Function.update stance t st') ∧
      (left' = true → left = true ∧ st' = stance t) := by
  induction p generalizing w stance left with
  | done result => exact ⟨stance t, false, endures, by rwa [Function.update_eq_self],
    fun stays => absurd stays Bool.false_ne_true⟩
  | ask r next ih =>
    obtain ⟨st', after, went⟩ := h.ask keeps endures
    rw [Program.advance]
    split
    · next response w' e =>
      rw [e] at after went
      obtain ⟨st'', left'', fits, done, same⟩ := ih response after (by rwa [Function.update_self])
      rw [Function.update_idem] at done
      exact ⟨st'', left'', fits, done, fun stays => absurd (same stays).1 Bool.false_ne_true⟩
    · next w' e =>
      rw [e] at after went
      obtain ⟨left', waiting, same⟩ := went
      exact ⟨st', left', waiting, after, same⟩

end RecordAudit
