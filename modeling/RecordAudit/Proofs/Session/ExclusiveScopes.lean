import RecordAudit.Proofs.Session.Interleaving
import RecordAudit.Proofs.Session.ScopeTask
import RecordAudit.Solver.Script

/-!
# Scopes exclude each other

Any number of tasks use the scopes of one session, on one event loop or on several that follow each
other. Whatever the order of their steps is, the calls to the backend are whole blocks, one for each
scope, of one task each and made by what that task does in the scope. So what a check sees comes
from its own scope, and a task outside is refused.
-/

namespace RecordAudit

variable {σ α : Type}

/-! ## Backends -/

/-- A backend on which frames can always be opened, and dropped while one is open. -/
structure Backend.Steady (b : Backend σ) (state : σ) : Prop where
  push : ∀ calls, (b.respond .push (b.after calls state)).1 = .ok ()
  pop : ∀ calls, 0 < depthAfter calls → (b.respond .pop (b.after calls state)).1 = .ok ()

def Backend.machine (b : Backend σ) : Machine σ := ⟨b, fun _ => none⟩

/-- The states that whole blocks lead to. -/
def Backend.AfterBlocks (b : Backend σ) (state state' : σ) : Prop :=
  ∃ blocks : List (List Call), (∀ calls ∈ blocks, IsBlock calls) ∧
    state' = b.after blocks.flatten state

/-- Pushes and pops succeed, and anything else may give anything. -/
def steadyReplies : Replies
  | _, .push, reply => reply = .ok ()
  | _, .pop, reply => reply = .ok ()
  | _, .add _, _ => True
  | _, .check _, _ => True

theorem steadyReplies_steady : steadyReplies.Steady := ⟨id, id⟩

theorem depthAfter_blocks {blocks : List (List Call)} (h : ∀ calls ∈ blocks, IsBlock calls)
    (calls : List Call) : depthAfter (blocks.flatten ++ calls) = depthAfter calls := by
  simp [depthAfter, framesAfter, framesFrom_blocks h]

theorem Backend.Steady.keeps {b : Backend σ} {state : σ} (steady : b.Steady state) :
    b.machine.Keeps steadyReplies (b.AfterBlocks state) where
  reply {n calls c state'} := by
    rintro ⟨blocks, areBlocks, rfl⟩ opened first
    rw [Backend.machine, ← Backend.after_append]
    cases c with
    | push => exact steady.push _
    | pop =>
      refine steady.pop _ ?_
      rw [depthAfter_blocks areBlocks, opened.depthAfter]
      exact Nat.pos_of_ne_zero fun e => nomatch first e
    | add a | check τ => trivial
  block {calls state'} := by
    rintro ⟨blocks, areBlocks, rfl⟩ isBlock
    refine ⟨blocks ++ [calls], fun c hc => ?_, by simp [Backend.machine]⟩
    rcases List.mem_append.1 hc with hc | hc
    · exact areBlocks c hc
    · rw [List.mem_singleton.1 hc]
      exact isBlock
  create := nofun

/-! ## Sequences of calls -/

theorem depthAfter_visitCalls {visits : List Visit} (h : ∀ v ∈ visits, IsBlock v.2) :
    depthAfter ((visitCalls visits).map Prod.snd) = 0 := by
  rw [map_snd_visitCalls, ← List.append_nil (List.flatten _)]
  refine depthAfter_blocks (fun calls hc => ?_) []
  obtain ⟨v, hv, rfl⟩ := List.mem_map.1 hc
  exact h v hv

theorem madeBy_eq_append {t u : TaskId} {own : List Call} {c : Call} {a b : List (TaskId × Call)}
    (h : madeBy t own = a ++ (u, c) :: b) :
    u = t ∧ ∃ a' b', own = a' ++ c :: b' ∧ a = madeBy t a' := by
  obtain ⟨a', rest, rfl, rfl, rest_eq⟩ := List.map_eq_append_iff.1 h
  obtain ⟨c', b', rfl, e, -⟩ := List.map_eq_cons_iff.1 rest_eq
  cases e
  exact ⟨rfl, a', b', rfl, rfl⟩

/-- What came before a check: whole blocks, and the calls that its own task has made in its
scope. -/
theorem before_check {visits : List Visit} {current a b : List (TaskId × Call)} {t : TaskId}
    {τ : Timeout} (areBlocks : ∀ v ∈ visits, IsBlock v.2)
    (inside : current = [] ∨ ∃ u own n, current = madeBy u own ∧ Opened (n + 1) own)
    (e : visitCalls visits ++ current = a ++ (t, .check τ) :: b) :
    ∃ done more own n, visits = done ++ more ∧ a = visitCalls done ++ madeBy t own ∧
      Opened (n + 1) own := by
  induction visits generalizing a with
  | nil =>
    rcases inside with rfl | ⟨u, own, n, rfl, opened⟩
    · simp [visitCalls] at e
    · obtain ⟨rfl, a', b', rfl, rfl⟩ := madeBy_eq_append e
      obtain ⟨k, opened'⟩ := opened.opened_before_check rfl
      exact ⟨[], [], a', k, rfl, rfl, opened'⟩
  | cons v rest ih =>
    rw [visitCalls, List.flatMap_cons, List.append_assoc] at e
    have cut : (∃ beyond, a = madeBy v.1 v.2 ++ beyond ∧
        visitCalls rest ++ current = beyond ++ (t, .check τ) :: b) ∨
        ∃ left, madeBy v.1 v.2 = a ++ (t, .check τ) :: left := by
      rcases List.append_eq_append_iff.1 e with beyond | ⟨left, v_eq, check_eq⟩
      · exact .inl beyond
      · cases left with
        | nil => exact .inl ⟨[], by simpa using v_eq.symm, check_eq.symm⟩
        | cons x left =>
          obtain ⟨rfl, -⟩ := List.cons.inj check_eq
          exact .inr ⟨left, v_eq⟩
    rcases cut with ⟨beyond, rfl, rest_eq⟩ | ⟨left, v_eq⟩
    · obtain ⟨done, more, own, n, rfl, rfl, opened⟩ :=
        ih (fun v hv => areBlocks v (by simp [hv])) rest_eq
      exact ⟨v :: done, more, own, n, rfl, by simp [visitCalls], opened⟩
    · obtain ⟨rfl, a', b', cut_eq, rfl⟩ := madeBy_eq_append v_eq
      obtain ⟨k, opened⟩ := (areBlocks v (by simp)).opened_before_check cut_eq
      exact ⟨[], v :: rest, a', k, rfl, rfl, opened⟩

/-- The calls in progress on a session are those that the owner of its scope has made in it. -/
theorem Consistent.inProgress_cases {m : Machine σ} {allows : Replies} {clean : σ → Prop}
    {past : SessionId → List (TaskId × Call)} {w : World σ} {stance : TaskId → Stance}
    {s : SessionId} (h : Consistent m allows clean past w stance) (l : Lock) :
    l.inProgress (fun t => (stance t).hold.at (.session s)) = [] ∨ ∃ t own n, w.owner? s = some t ∧
      l.inProgress (fun t => (stance t).hold.at (.session s)) = madeBy t own ∧
      Opened (n + 1) own := by
  cases e : l.holder with
  | none => exact .inl (Lock.inProgress_of_none e _)
  | some t =>
    rw [Lock.inProgress_of_holder e]
    have sound := (h.sound t).hold
    have owner := h.owner_eq s t
    cases hold : (stance t).hold with
    | nothing | provider | creating c => exact .inl rfl
    | queued l =>
      refine .inl ?_
      rw [Hold.at]
      split <;> rfl
    | scope s' owns n calls =>
      rw [hold] at sound owner
      by_cases same : s' = s
      · subst same
        rw [Hold.at_scope_self]
        cases n with
        | zero => exact .inl (by rw [Place.calls, sound.2.1.eq_nil]; rfl)
        | succ n =>
          have isOwner : owns = true := by
            cases owns with
            | true => rfl
            | false => cases sound.2.2 rfl
          exact .inr ⟨t, calls, n, by simpa [Hold.owns, isOwner] using owner, rfl, sound.2.1⟩
      · rw [Hold.at_scope_other (by simpa using Ne.symm same)]
        exact .inl rfl
    | checking s' n calls τ c =>
      rw [hold] at sound owner
      by_cases same : s' = s
      · subst same
        rw [Hold.at_checking_self]
        obtain ⟨-, deep, opened, -⟩ := sound
        obtain ⟨k, rfl⟩ := Nat.exists_eq_succ_of_ne_zero (Nat.pos_iff_ne_zero.1 deep)
        exact .inr ⟨t, _, k, by simpa [Hold.owns] using owner, rfl, opened.append (.check τ .nil)⟩
      · rw [Hold.at_checking_other (by simpa using Ne.symm same)]
        exact .inl rfl

/-! ## Event loops -/

/-- Tasks that use the scopes of a session on one event loop, and what happens there. -/
structure LoopRun (σ : Type) (s : SessionId) where
  tasks : List (ScopeTask s)
  events : List (Event σ)

namespace LoopRun

variable {s : SessionId}

/-- Tasks go on and checks end; nobody is cancelled. -/
def Orderly (l : LoopRun σ s) : Prop :=
  ∀ e ∈ l.events, (∃ t, e = .step t) ∨ ∃ c, e = .endCheck c

def run (b : Backend σ) (l : LoopRun σ s) (w : World σ) : Run σ Nat :=
  (Run.ofPrograms w (l.tasks.map ScopeTask.run)).applyAll b.machine l.events

def afterAll (b : Backend σ) : List (LoopRun σ s) → World σ → World σ
  | [], w => w
  | l :: rest, w => afterAll b rest (l.run b w).world.nextLoop

/-- On every event loop all tasks finish. -/
def AllFinish (b : Backend σ) : List (LoopRun σ s) → World σ → Prop
  | [], _ => True
  | l :: rest, w => (l.run b w).isFinished = true ∧ AllFinish b rest (l.run b w).world.nextLoop

/-- What one event loop adds to the calls: whole blocks, those of each task being what it does in
its scopes, and then the calls of the owner of the scope. -/
theorem run_calls {b : Backend σ} {state : σ} (steady : b.Steady state) {w : World σ}
    (rest : w.AtRest (b.AfterBlocks state)) (there : s < w.sessions.length) (l : LoopRun σ s)
    (orderly : l.Orderly) :
    ∃ (visits : List Visit) (current : List (TaskId × Call)),
      (l.run b w).world.callsOn s = w.callsOn s ++ visitCalls visits ++ current ∧
      (∀ v ∈ visits, IsBlock v.2) ∧
      (current = [] ∨ ∃ t own n, (l.run b w).world.owner? s = some t ∧ current = madeBy t own ∧
        Opened (n + 1) own) ∧
      (∀ (t : TaskId) (result : Except Interrupt Nat), (l.run b w).tasks[t]? =
        some (.finished result) → result = .ok (visitsOf t visits).length ∧
          ∃ task, l.tasks[t]? = some task ∧ task.Makes (visitsOf t visits)) ∧
      ((l.run b w).isFinished = true → current = [] ∧
        (l.run b w).world.AtRest (b.AfterBlocks state) ∧
        s < (l.run b w).world.sessions.length) := by
  let Q : TaskId → Except Interrupt Nat → Stance → Prop := fun t result st =>
    ∃ task, l.tasks[t]? = some task ∧ task.Ends [] result st
  have wp : ∀ (t : TaskId) p, (l.tasks.map ScopeTask.run)[t]? = some p →
      p.wp steadyReplies (.idle [s]) (Q t) := by
    intro t p e
    rw [List.getElem?_map, Option.map_eq_some_iff] at e
    obtain ⟨task, there, rfl⟩ := e
    exact TaskM.wp_mono (fun _ _ ends => ⟨task, there, ends⟩)
      (task.wp_run steadyReplies_steady rfl (by simp [Stance.idle]))
  have events : ∀ e ∈ l.events, e.Orderly (b.AfterBlocks state) := fun e he => by
    obtain ⟨t, rfl⟩ | ⟨c, rfl⟩ := orderly e he <;> trivial
  have start := Run.Coherent.ofPrograms (rest.consistent (m := b.machine) (by simpa using there)) wp
  obtain ⟨stance, h⟩ : ∃ stance, (l.run b w).Coherent b.machine steadyReplies (b.AfterBlocks state)
      w.callsOn [s] Q stance := start.applyAll steady.keeps events
  have born : s < (l.run b w).world.sessions.length := by
    refine (h.world.sound (l.run b w).tasks.length).known s ?_
    rw [h.others _ (Nat.le_refl _)]
    simp [Stance.idle]
  obtain ⟨session, -, fits⟩ := h.world.fits born
  obtain ⟨visits, areBlocks, mine, calls⟩ := fits.record
  refine ⟨visits, _, calls, areBlocks, h.world.inProgress_cases _, fun t result e => ?_,
    fun finished => ?_⟩
  · obtain ⟨task, thereTask, blocks, makes, rfl, -, made⟩ := h.finished e
    rw [mine t, Stance.madeOn_of_made made]
    exact ⟨rfl, task, thereTask, makes⟩
  · have idle := h.idle finished fun t result st ends => by
      obtain ⟨-, -, -, -, -, idle, -⟩ := ends
      exact idle
    refine ⟨?_, h.world.atRest idle, born⟩
    cases e : (session.lock.on (l.run b w).world.loop).holder with
    | none => exact Lock.inProgress_of_none e _
    | some t =>
      rw [Lock.inProgress_of_holder e, idle]
      rfl

/-- After all tasks of some event loops have finished, the session is at rest and its calls are
whole blocks. -/
theorem afterAll_calls {b : Backend σ} {state : σ} (steady : b.Steady state) {w : World σ}
    (rest : w.AtRest (b.AfterBlocks state)) (there : s < w.sessions.length) {visits : List Visit}
    (areBlocks : ∀ v ∈ visits, IsBlock v.2) (calls : w.callsOn s = visitCalls visits)
    {loops : List (LoopRun σ s)} (orderly : ∀ l ∈ loops, l.Orderly) (finish : AllFinish b loops w) :
    (afterAll b loops w).AtRest (b.AfterBlocks state) ∧ s < (afterAll b loops w).sessions.length ∧
      ∃ visits : List Visit, (∀ v ∈ visits, IsBlock v.2) ∧
        (afterAll b loops w).callsOn s = visitCalls visits := by
  induction loops generalizing w visits with
  | nil => exact ⟨rest, there, visits, areBlocks, calls⟩
  | cons l loops ih =>
    obtain ⟨more, current, e, moreBlocks, -, -, done⟩ :=
      run_calls steady rest there l (orderly l (by simp))
    obtain ⟨rfl, restful, born⟩ := done finish.1
    have allBlocks : ∀ v ∈ visits ++ more, IsBlock v.2 := fun v hv =>
      (List.mem_append.1 hv).elim (areBlocks v) (moreBlocks v)
    have allCalls : (l.run b w).world.nextLoop.callsOn s = visitCalls (visits ++ more) := by
      change (l.run b w).world.callsOn s = _
      rw [e, calls]
      simp
    exact ih restful.nextLoop born allBlocks allCalls
      (fun l' hl => orderly l' (by simp [hl])) finish.2

end LoopRun

/-! ## Refusal -/

/-- A task that tries this goes on with a fault, and nothing else has happened. -/
def TaskM.Refused (m : Machine σ) (w : World σ) (t : TaskId) (p : TaskM α) : Prop :=
  ∀ {β : Type} (next : Except Interrupt α → Program (Except Interrupt β)),
    (p.run >>= next).advance m t w = (next (.error (.fault .outsideScope))).advance m t w

section Refusal

variable {m : Machine σ} {w : World σ} {t : TaskId} {s : SessionId} (h : w.owner? s ≠ some t)

include h

theorem Session.requireScope_refused (p : Unit → TaskM α) :
    (Session.requireScope s >>= p).Refused m w t := by
  intro β next
  have asked : w.request m t (.owns s) = (some false, w) := by simp [World.request, h]
  change (Program.ask (.owns s) _).advance m t w = _
  rw [Program.advance, asked]
  rfl

theorem Session.add_refused (a : Operand) : (Session.add s a).Refused m w t :=
  requireScope_refused h _

theorem Session.check_refused (τ : Timeout) : (Session.check s τ).Refused m w t :=
  requireScope_refused h _

theorem Session.frame_refused (body : TaskM α) : (Session.frame s body).Refused m w t := by
  unfold Session.frame Session.openFrame
  rw [bind_assoc]
  exact requireScope_refused h _

end Refusal

/-! ## Permission -/

/-- A task that tries this makes this call, the next one that the session gets, and goes on with the
reply. -/
def TaskM.Granted (m : Machine σ) (w : World σ) (t : TaskId) (s : SessionId) (c : Call)
    (p : TaskM c.Reply) :
    Prop :=
  ∃ reply w', w.call m.backend t s c = (reply, w') ∧ w'.callsOn s = w.callsOn s ++ [(t, c)] ∧
    ∀ {β : Type} (next : Except Interrupt c.Reply → Program (Except Interrupt β)),
      (p.run >>= next).advance m t w = (next (reply.mapError .fault)).advance m t w'

/-- The owner of a scope gets what it adds to the backend. -/
theorem Session.add_granted {w : World σ} {t : TaskId} {s : SessionId} (h : w.owner? s = some t)
    (m : Machine σ) (a : Operand) : (Session.add s a).Granted m w t s (.add a) := by
  obtain ⟨session, there, -⟩ := Option.bind_eq_some_iff.1 h
  cases e : w.call m.backend t s (.add a) with
  | mk reply w' =>
    refine ⟨reply, w', e, ?_, fun next => ?_⟩
    · have called : w'.history = .called t s (.add a) :: w.history := by
        rw [World.call_eq m.backend t (.add a) there] at e
        rw [← (Prod.mk.inj e).2]
      rw [World.callsOn_called called, if_pos rfl]
    · have asked : w.request m t (.owns s) = (some true, w) := by simp [World.request, h]
      have added : w.request m t (.add s a) = (some reply, w') := by simp [World.request, e]
      change (Program.ask (.owns s) _).advance m t w = _
      rw [Program.advance, asked]
      change (Program.ask (.add s a) _).advance m t w = _
      rw [Program.advance, added]
      cases reply <;> rfl

/-! ## The theorem -/

/-- The calls to a session so far, as the scopes of its tasks put them in order. -/
structure ExclusiveCalls (calls : List (TaskId × Call)) (owner : Option TaskId)
    (visits : List Visit) (current : List (TaskId × Call)) : Prop where
  /-- They are whole blocks, and then the calls of the scope that is open. -/
  calls_eq : calls = visitCalls visits ++ current
  blocks : ∀ v ∈ visits, IsBlock v.2
  /-- The open scope is the owner's, and its block is not yet complete. -/
  inside : current = [] ∨ ∃ t own n, owner = some t ∧ current = madeBy t own ∧ Opened (n + 1) own
  between : ∀ done more, visits = done ++ more → depthAfter ((visitCalls done).map Prod.snd) = 0
  /-- What is live at a check is what the calls of its own scope leave live. -/
  seen : ∀ pre t timeout post, calls = pre ++ (t, .check timeout) :: post →
    ∃ done more own n, visits = done ++ more ∧ pre = visitCalls done ++ madeBy t own ∧
      Opened (n + 1) own ∧ liveAfter (pre.map Prod.snd) = liveAfter own

theorem exclusiveCalls {calls : List (TaskId × Call)} {owner : Option TaskId} {visits : List Visit}
    {current : List (TaskId × Call)} (calls_eq : calls = visitCalls visits ++ current)
    (blocks : ∀ v ∈ visits, IsBlock v.2)
    (inside : current = [] ∨ ∃ t own n, owner = some t ∧ current = madeBy t own ∧
      Opened (n + 1) own) :
    ExclusiveCalls calls owner visits current := by
  refine ⟨calls_eq, blocks, inside, fun done more e => ?_, fun pre t τ post e => ?_⟩
  · exact depthAfter_visitCalls fun v hv => blocks v (by simp [e, hv])
  · have inside' : current = [] ∨ ∃ u own n, current = madeBy u own ∧ Opened (n + 1) own :=
      inside.imp_right fun ⟨t, own, n, _, rest⟩ => ⟨t, own, n, rest⟩
    obtain ⟨done, more, own, n, rfl, rfl, opened⟩ :=
      before_check blocks inside' (calls_eq.symm.trans e)
    refine ⟨done, more, own, n, rfl, rfl, opened, ?_⟩
    rw [List.map_append, map_snd_visitCalls, map_snd_madeBy]
    refine liveAfter_blocks (fun b hb => ?_) own
    obtain ⟨v, hv, rfl⟩ := List.mem_map.1 hb
    exact blocks v (by simp [hv])

def World.single (state : σ) : World σ := (World.empty.addSession state).2

theorem World.single_atRest {clean : σ → Prop} {state : σ} (isClean : clean state) :
    (World.single state).AtRest clean := by
  refine ⟨rfl, Nat.le_refl 0, fun s session e => ?_, nofun, nofun⟩
  obtain ⟨rfl, rfl⟩ : s = 0 ∧ session = ⟨state, 0, .free 0, none⟩ := by
    cases s with
    | zero => exact ⟨rfl, by simpa [World.single, World.addSession, World.empty, eq_comm] using e⟩
    | succ s => simp [World.single, World.addSession, World.empty] at e
  exact ⟨rfl, Nat.le_refl 0, rfl, isClean⟩

/-- Whatever tasks do with the scopes of a session, on event loops one after the other and in
whatever order of steps, the calls are those of one scope after the other. A task that has finished
has made one block for each scope that it entered, of the calls of what it did there. When all have
finished no scope is open. Whatever the owner of the scope adds comes next, and whoever does not own
it is refused. -/
theorem scopes_exclusive {b : Backend σ} {state : σ} (steady : b.Steady state)
    (earlier : List (LoopRun σ 0)) (l : LoopRun σ 0) (orderly : ∀ l' ∈ earlier ++ [l], l'.Orderly)
    (finish : LoopRun.AllFinish b earlier (.single state)) :
    ∃ (before visits : List Visit) (current : List (TaskId × Call)),
      (LoopRun.afterAll b earlier (.single state)).callsOn 0 = visitCalls before ∧
      ∀ run, run = l.run b (LoopRun.afterAll b earlier (.single state)) →
        ExclusiveCalls (run.world.callsOn 0) (run.world.owner? 0) (before ++ visits) current ∧
        (∀ (t : TaskId) (result : Except Interrupt Nat), run.tasks[t]? = some (.finished result) →
          result = .ok (visitsOf t visits).length ∧
            ∃ task, l.tasks[t]? = some task ∧ task.Makes (visitsOf t visits)) ∧
        (run.isFinished = true → current = []) ∧
        (∀ t, run.world.owner? 0 = some t →
          ∀ a, (Session.add 0 a).Granted b.machine run.world t 0 (.add a)) ∧
        ∀ t, run.world.owner? 0 ≠ some t →
          (∀ a, (Session.add 0 a).Refused b.machine run.world t) ∧
          (∀ timeout, (Session.check 0 timeout).Refused b.machine run.world t) ∧
          ∀ {α : Type} (body : TaskM α), (Session.frame 0 body).Refused b.machine run.world t := by
  have clean : b.AfterBlocks state state := ⟨[], nofun, rfl⟩
  have there : 0 < (World.single state).sessions.length := Nat.zero_lt_one
  have noBlocks : ∀ v ∈ ([] : List Visit), IsBlock v.2 := nofun
  obtain ⟨rest, born, before, areBlocks, calls⟩ :=
    LoopRun.afterAll_calls steady (World.single_atRest clean) there noBlocks rfl
      (fun l' hl => orderly l' (by simp [hl])) finish
  obtain ⟨visits, current, calls_eq, blocks, inside, counts, done⟩ :=
    LoopRun.run_calls steady rest born l (orderly l (by simp))
  refine ⟨before, visits, current, calls, ?_⟩
  rintro run rfl
  refine ⟨exclusiveCalls ?_ ?_ inside, counts, fun finished => (done finished).1,
    fun t h a => Session.add_granted h b.machine a,
    fun t h => ⟨Session.add_refused h, Session.check_refused h, Session.frame_refused h⟩⟩
  · rw [calls_eq, calls, visitCalls_append]
  · intro v hv
    exact (List.mem_append.1 hv).elim (areBlocks v) (blocks v)

/-- A task that adds an assertion in a scope and checks it, and before and after it a task that adds
one outside every scope. -/
theorem scopes_exclusive_script :
    let visitor : ScopeTask 0 :=
      .visit (do Session.add 0 (.value (.bool true)); Session.check 0 none)
        (.bind (.add _) fun _ => .check _) fun _ => .done
    let stranger : ScopeTask 0 :=
      .stray (Session.add 0 (.value (.bool false))) (.add _) fun _ => .done
    let start : World Script := .single (.ofOutcomes [])
    let first : LoopRun Script 0 := ⟨[stranger, visitor], [.step 1, .step 0, .endCheck 0, .step 1]⟩
    let second : LoopRun Script 0 := ⟨[visitor, stranger], [.step 0, .step 1]⟩
    let run := second.run Script.backend (LoopRun.afterAll Script.backend [first] start)
    ∃ (before visits : List Visit) (current : List (TaskId × Call)),
      (LoopRun.afterAll Script.backend [first] start).callsOn 0 = visitCalls before ∧
      ExclusiveCalls (run.world.callsOn 0) (run.world.owner? 0) (before ++ visits) current ∧
      ∀ (t : TaskId) (result : Except Interrupt Nat), run.tasks[t]? = some (.finished result) →
        result = .ok (visitsOf t visits).length ∧
          ∃ task, second.tasks[t]? = some task ∧ task.Makes (visitsOf t visits) := by
  intro visitor stranger start first second run
  have steady : Script.backend.Steady (.ofOutcomes []) := ⟨fun _ => rfl, fun _ _ => rfl⟩
  have finish : LoopRun.AllFinish Script.backend [first] start := ⟨by decide +kernel, trivial⟩
  obtain ⟨before, visits, current, calls, h⟩ := scopes_exclusive steady [first] second
    (by simp [LoopRun.Orderly, first, second]) finish
  exact ⟨before, visits, current, calls, (h run rfl).1, (h run rfl).2.1⟩

end RecordAudit
