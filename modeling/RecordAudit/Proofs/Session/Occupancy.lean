import RecordAudit.Proofs.Session.Queue
import RecordAudit.Proofs.Session.Trace
import RecordAudit.Session.World

/-!
# One session and the tasks around it

Where every task stands towards a session, and what this says about the session: its lock, its
owner, its backend and the calls that were made to it. Each operation on the session moves one task
from a place to another, and keeps the rest as it is.
-/

namespace RecordAudit

/-- Where a task stands towards a session. -/
inductive Place where
  | away
  /-- The task waits for the session's lock. -/
  | queued
  /-- The task has the lock; whether it owns the scope, and the calls it has made since no frame was
  open. -/
  | inside (owner : Bool) (calls : List Call)

namespace Place

def awaits : Place → Bool
  | .queued => true
  | _ => false

def holds : Place → Bool
  | .inside _ _ => true
  | _ => false

def owns : Place → Bool
  | .inside owner _ => owner
  | _ => false

def calls : Place → List Call
  | .inside _ calls => calls
  | _ => []

theorem holds_of_owns {p : Place} (h : p.owns = true) : p.holds = true := by
  cases p <;> simp_all [owns, holds]

end Place

def madeBy (t : TaskId) (calls : List Call) : List (TaskId × Call) := calls.map (Prod.mk t)

@[simp] theorem madeBy_nil (t : TaskId) : madeBy t [] = [] := rfl

@[simp] theorem madeBy_append (t : TaskId) (a b : List Call) :
    madeBy t (a ++ b) = madeBy t a ++ madeBy t b := List.map_append

@[simp] theorem map_snd_madeBy (t : TaskId) (calls : List Call) :
    (madeBy t calls).map Prod.snd = calls := by
  rw [madeBy, List.map_map]
  exact List.map_id calls

/-- A block of calls with the task that made it. -/
abbrev Visit := TaskId × List Call

def visitCalls (visits : List Visit) : List (TaskId × Call) :=
  visits.flatMap fun v => madeBy v.1 v.2

@[simp] theorem visitCalls_append (a b : List Visit) :
    visitCalls (a ++ b) = visitCalls a ++ visitCalls b := List.flatMap_append

theorem map_snd_visitCalls (visits : List Visit) :
    (visitCalls visits).map Prod.snd = (visits.map Prod.snd).flatten := by
  rw [visitCalls, List.map_flatMap, List.flatMap_def]
  simp only [map_snd_madeBy]

def visitsOf (t : TaskId) (visits : List Visit) : List (List Call) :=
  (visits.filter (·.1 = t)).map Prod.snd

@[simp] theorem visitsOf_append (t : TaskId) (a b : List Visit) :
    visitsOf t (a ++ b) = visitsOf t a ++ visitsOf t b := by simp [visitsOf]

@[simp] theorem visitsOf_singleton (t u : TaskId) (calls : List Call) :
    visitsOf t [(u, calls)] = if u = t then [calls] else [] := by
  by_cases e : u = t <;> simp [visitsOf, e]

/-- The calls of the task that has a lock, since no frame was open. -/
def Lock.inProgress (l : Lock) (place : TaskId → Place) : List (TaskId × Call) :=
  match l.holder with
  | some t => madeBy t (place t).calls
  | none => []

@[simp] theorem Lock.on_loop (l : Lock) (loop : Nat) : (l.on loop).loop = loop := by
  unfold Lock.on
  split
  · next h => exact h
  · rfl

theorem Lock.on_of_loop {l : Lock} {loop : Nat} (h : l.loop = loop) : l.on loop = l := if_pos h

@[simp] theorem Lock.acquire_loop (l : Lock) (t : TaskId) : (l.acquire t).loop = l.loop := by
  unfold Lock.acquire
  split <;> rfl

@[simp] theorem Lock.release_loop (l : Lock) : l.release.loop = l.loop := rfl

theorem comp_update {α : Type} (f : Place → α) (place : TaskId → Place) (t : TaskId) (p : Place) :
    (fun u => f (Function.update place t p u)) = Function.update (fun u => f (place u)) t (f p) :=
  funext fun u => Function.apply_update (fun _ => f) place t p u

theorem comp_update_same {α : Type} (f : Place → α) {place : TaskId → Place} {t : TaskId}
    {p : Place} (h : f p = f (place t)) :
    (fun u => f (Function.update place t p u)) = fun u => f (place u) := by
  rw [comp_update, h]
  exact Function.update_eq_self t fun u => f (place u)

/-- The calls in progress are those of the task that has the lock. -/
theorem Lock.inProgress_of_holder {l : Lock} {t : TaskId} (h : l.holder = some t)
    (place : TaskId → Place) : l.inProgress place = madeBy t (place t).calls := by
  rw [Lock.inProgress, h]

theorem Lock.inProgress_of_none {l : Lock} (h : l.holder = none) (place : TaskId → Place) :
    l.inProgress place = [] := by
  rw [Lock.inProgress, h]

theorem Lock.inProgress_free (loop : Nat) (place : TaskId → Place) :
    (Lock.free loop).inProgress place = [] := rfl

theorem Lock.inProgress_update (l : Lock) {place : TaskId → Place} {t : TaskId} {p : Place}
    (h : p.calls = (place t).calls) :
    l.inProgress (Function.update place t p) = l.inProgress place := by
  unfold Lock.inProgress
  cases l.holder with
  | none => rfl
  | some u => simp only [congrFun (comp_update_same Place.calls h) u]

/-- A free lock is taken without calls in progress, and waiting for a lock changes nothing about
those. -/
theorem Lock.inProgress_acquire (l : Lock) {place : TaskId → Place} {t : TaskId}
    (h : (place t).calls = []) : (l.acquire t).inProgress place = l.inProgress place := by
  unfold Lock.inProgress Lock.acquire
  cases l.holder with
  | none => simp [h]
  | some u => rfl

variable {σ : Type}

/-- A session fits the places of tasks. Its lock serves them in turn, the task inside that owns the
scope is the owner, the backend is a clean one that has taken the calls in progress, and all calls
so far are earlier ones, then whole blocks, and then those in progress. -/
structure SessionState.Fits (b : Backend σ) (clean : σ → Prop) (past calls : List (TaskId × Call))
    (loop : Nat) (session : SessionState σ) (place : TaskId → Place)
    (made : TaskId → List (List Call)) : Prop where
  current : session.lock.loop ≤ loop
  lock : (session.lock.on loop).Serves (fun t => (place t).holds) fun t => (place t).awaits
  owner : ∀ t, session.owner = some t ↔ (place t).owns = true
  backend : ∃ state, clean state ∧
    session.backend = b.after (((session.lock.on loop).inProgress place).map Prod.snd) state
  record : ∃ visits : List Visit, (∀ v ∈ visits, IsBlock v.2) ∧ (∀ t, visitsOf t visits = made t) ∧
    calls = past ++ visitCalls visits ++ (session.lock.on loop).inProgress place

namespace SessionState.Fits

variable {b : Backend σ} {clean : σ → Prop} {past calls : List (TaskId × Call)} {loop : Nat}
  {session : SessionState σ} {place : TaskId → Place} {made : TaskId → List (List Call)}
  {t : TaskId} {own : List Call} {owner : Bool}

theorem held (h : session.Fits b clean past calls loop place made)
    (inside : place t = .inside owner own) :
    (session.lock.on loop).holder = some t :=
  h.lock.held t (by simp [inside, Place.holds])

theorem alone (h : session.Fits b clean past calls loop place made)
    (inside : place t = .inside owner own) {u : TaskId} (hu : (place u).holds = true) : u = t :=
  Option.some.inj ((h.lock.held u hu).symm.trans (h.held inside))

theorem inProgress_eq (h : session.Fits b clean past calls loop place made)
    (inside : place t = .inside owner own) :
    (session.lock.on loop).inProgress place = madeBy t own := by
  rw [Lock.inProgress_of_holder (h.held inside), inside]
  rfl

/-- The backend is a clean one that has taken the calls in progress. -/
theorem backend_eq (h : session.Fits b clean past calls loop place made)
    (inside : place t = .inside owner own) :
    ∃ state, clean state ∧ session.backend = b.after own state := by
  obtain ⟨state, isClean, e⟩ := h.backend
  exact ⟨state, isClean, by rw [e, h.inProgress_eq inside, map_snd_madeBy]⟩

theorem owner_update (h : session.Fits b clean past calls loop place made) {p : Place}
    (same : p.owns = (place t).owns) (u : TaskId) :
    session.owner = some u ↔ (Function.update place t p u).owns = true := by
  rw [congrFun (comp_update_same Place.owns same) u]
  exact h.owner u

theorem start {state : σ} (isClean : clean state) (away : ∀ t, place t = .away)
    (none_made : ∀ t, made t = []) :
    (⟨state, 0, .free loop, none⟩ : SessionState σ).Fits b clean past past loop place made := by
  have free : (Lock.free loop).on loop = .free loop := Lock.on_of_loop rfl
  refine ⟨Nat.le_refl loop, ?_, ?_, ?_, ?_⟩
  · rw [free]
    exact .free loop _ _ (fun t => by rw [away]; rfl) fun t => by rw [away]; rfl
  · simp [away, Place.owns]
  · exact ⟨state, isClean, by rw [free]; rfl⟩
  · exact ⟨[], by simp, by simp [visitsOf, none_made], by simp [visitCalls, free,
      Lock.inProgress_free]⟩

theorem acquire (h : session.Fits b clean past calls loop place made) (away : place t = .away) :
    ({ session with lock := (session.lock.on loop).acquire t }).Fits b clean past calls loop
      (Function.update place t .queued) made := by
  have on : ((session.lock.on loop).acquire t).on loop = (session.lock.on loop).acquire t :=
    Lock.on_of_loop (by simp)
  have same : ((session.lock.on loop).acquire t).inProgress (Function.update place t .queued) =
      (session.lock.on loop).inProgress place := by
    rw [Lock.inProgress_update _ (by rw [away]; rfl), Lock.inProgress_acquire _ (by rw [away]; rfl)]
  have lock := h.lock.acquire (t := t) (by rw [away]; rfl) (by rw [away]; rfl)
  refine ⟨by simp, ?_, h.owner_update (by rw [away]; rfl), ?_, ?_⟩
  · rw [on, comp_update_same Place.holds (by rw [away]; rfl), comp_update Place.awaits]
    exact lock
  · rw [on, same]
    exact h.backend
  · rw [on, same]
    exact h.record

theorem granted (h : session.Fits b clean past calls loop place made) (queued : place t = .queued)
    (handed : (session.lock.on loop).holder = some t) :
    session.Fits b clean past calls loop (Function.update place t (.inside false [])) made := by
  have same : (session.lock.on loop).inProgress (Function.update place t (.inside false [])) =
      (session.lock.on loop).inProgress place := Lock.inProgress_update _ (by rw [queued]; rfl)
  refine ⟨h.current, ?_, h.owner_update (by rw [queued]; rfl), ?_, ?_⟩
  · rw [comp_update Place.holds, comp_update Place.awaits]
    exact h.lock.granted handed
  · rw [same]
    exact h.backend
  · rw [same]
    exact h.record

/-- The task inside, which has given up the scope, leaves. -/
theorem release (h : session.Fits b clean past calls loop place made)
    (inside : place t = .inside false []) :
    ({ session with lock := (session.lock.on loop).release }).Fits b clean past calls loop
      (Function.update place t .away) made := by
  have on : (session.lock.on loop).release.on loop = (session.lock.on loop).release :=
    Lock.on_of_loop (by simp)
  have before : (session.lock.on loop).inProgress place = [] := h.inProgress_eq inside
  have lock := h.lock.release (t := t) (by rw [inside]; rfl) (by rw [inside]; rfl)
  -- whoever is handed the lock has not noticed, and has made no calls
  have after : (session.lock.on loop).release.inProgress (Function.update place t .away) = [] := by
    rw [Lock.inProgress_update _ (by rw [inside]; rfl)]
    cases e : (session.lock.on loop).release.holder with
    | none => exact Lock.inProgress_of_none e _
    | some u =>
      rw [Lock.inProgress_of_holder e]
      cases p : place u with
      | away | queued => rfl
      | inside owner own =>
        have same := h.alone inside (u := u) (by rw [p]; rfl)
        rw [same, inside] at p
        cases p
        rfl
  refine ⟨by simp, ?_, h.owner_update (by rw [inside]; rfl), ?_, ?_⟩
  · rw [on, comp_update Place.holds, comp_update_same Place.awaits (by rw [inside]; rfl)]
    exact lock
  · rw [on, after, ← before]
    exact h.backend
  · rw [on, after, ← before]
    exact h.record

theorem setOwner (h : session.Fits b clean past calls loop place made)
    (inside : place t = .inside owner []) (owner' : Bool) :
    ({ session with owner := if owner' then some t else none }).Fits b clean past calls loop
      (Function.update place t (.inside owner' [])) made := by
  have same : (session.lock.on loop).inProgress (Function.update place t (.inside owner' [])) =
      (session.lock.on loop).inProgress place := Lock.inProgress_update _ (by rw [inside]; rfl)
  refine ⟨h.current, ?_, fun u => ?_, ?_, ?_⟩
  · rw [comp_update_same Place.holds (by rw [inside]; rfl),
      comp_update_same Place.awaits (by rw [inside]; rfl)]
    exact h.lock
  · by_cases e : u = t
    · cases owner' <;> simp [e, Place.owns]
    · have : ¬(place u).owns = true := fun hu => e (h.alone inside (Place.holds_of_owns hu))
      cases owner' <;> simp [Ne.symm e, e, this]
  · rw [same]
    exact h.backend
  · rw [same]
    exact h.record

theorem call (h : session.Fits b clean past calls loop place made)
    (inside : place t = .inside true own) (c : Call) :
    ({ session with backend := (b.respond c session.backend).2 }).Fits b clean past
      (calls ++ [(t, c)]) loop (Function.update place t (.inside true (own ++ [c]))) made := by
  have after : (session.lock.on loop).inProgress
      (Function.update place t (.inside true (own ++ [c]))) = madeBy t (own ++ [c]) := by
    rw [Lock.inProgress_of_holder (h.held inside), Function.update_self]
    rfl
  refine ⟨h.current, ?_, h.owner_update (by rw [inside]; rfl), ?_, ?_⟩
  · rw [comp_update_same Place.holds (by rw [inside]; rfl),
      comp_update_same Place.awaits (by rw [inside]; rfl)]
    exact h.lock
  · obtain ⟨state, isClean, e⟩ := h.backend_eq inside
    exact ⟨state, isClean, by rw [after, e, map_snd_madeBy, Backend.after_append]; rfl⟩
  · obtain ⟨visits, blocks, mine, e⟩ := h.record
    exact ⟨visits, blocks, mine, by rw [after, e, h.inProgress_eq inside]; simp [madeBy]⟩

/-- The calls in progress are a whole block. -/
theorem complete (h : session.Fits b clean past calls loop place made)
    (inside : place t = .inside true own) (isBlock : IsBlock own)
    (closed : ∀ state, clean state → clean (b.after own state)) :
    session.Fits b clean past calls loop (Function.update place t (.inside true []))
      (Function.update made t (made t ++ [own])) := by
  have after : (session.lock.on loop).inProgress (Function.update place t (.inside true [])) =
      [] := by
    rw [Lock.inProgress_of_holder (h.held inside), Function.update_self]
    rfl
  refine ⟨h.current, ?_, h.owner_update (by rw [inside]; rfl), ?_, ?_⟩
  · rw [comp_update_same Place.holds (by rw [inside]; rfl),
      comp_update_same Place.awaits (by rw [inside]; rfl)]
    exact h.lock
  · obtain ⟨state, isClean, e⟩ := h.backend_eq inside
    exact ⟨b.after own state, closed state isClean, by rw [after]; exact e⟩
  · obtain ⟨visits, blocks, mine, e⟩ := h.record
    refine ⟨visits ++ [(t, own)], ?_, fun u => ?_, ?_⟩
    · intro v hv
      rcases List.mem_append.1 hv with hv | hv
      · exact blocks v hv
      · rw [List.mem_singleton.1 hv]
        exact isBlock
    · by_cases same : u = t
      · simp [same, mine]
      · simp [same, mine, Ne.symm same]
    · rw [after, e, h.inProgress_eq inside]
      simp [visitCalls]

end SessionState.Fits

end RecordAudit
