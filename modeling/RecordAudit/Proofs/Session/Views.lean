import Mathlib.Tactic.Common
import RecordAudit.Session.World

/-!
# Views of the world

What each operation on the world leaves to be seen of it: the sessions, the calls that were made to
each of them, and the lengths of what only grows.
-/

namespace RecordAudit

def Occurrence.callOn? (s : SessionId) : Occurrence → Option (TaskId × Call)
  | .called t s' c => if s' = s then some (t, c) else none
  | .ended _ => none

namespace World

variable {σ : Type} {w : World σ} {s : SessionId} {session : SessionState σ}

/-- The calls that were made to a session, in the order of time, each with the task that made it. -/
def callsOn (w : World σ) (s : SessionId) : List (TaskId × Call) :=
  w.history.reverse.filterMap (Occurrence.callOn? s)

/-- What one world has that another has too: sessions and creations by number, a session to share,
and the answers of checks. -/
structure Grows (w w' : World σ) : Prop where
  sessions : w.sessions.length ≤ w'.sessions.length
  creations : w.creations.length ≤ w'.creations.length
  shared : w.shared.isSome → w'.shared.isSome
  checks : ∀ (c : CheckId) (check : RunningCheck), w.checks[c]? = some check →
    ∃ check' : RunningCheck, w'.checks[c]? = some check' ∧ check'.answer = check.answer

theorem Grows.of_eq {w' : World σ} (sessions : w'.sessions.length = w.sessions.length)
    (creations : w'.creations = w.creations) (shared : w'.shared = w.shared)
    (checks : w'.checks = w.checks) : w.Grows w' :=
  ⟨Nat.le_of_eq sessions.symm, Nat.le_of_eq (by rw [creations]), fun some => shared ▸ some,
    fun c check h => ⟨check, by rw [checks, h], rfl⟩⟩

/-- One session has changed, and nothing else but checks and calls to that session. -/
structure Revised (w w' : World σ) (s : SessionId) (session' : SessionState σ) : Prop where
  grows : w.Grows w'
  length : w'.sessions.length = w.sessions.length
  session : w'.sessions[s]? = some session'
  others : ∀ s' ≠ s, w'.sessions[s']? = w.sessions[s']?
  loop : w'.loop = w.loop
  providerLock : w'.providerLock = w.providerLock
  shared : w'.shared = w.shared
  creations : w'.creations = w.creations
  calls : ∀ s' ≠ s, w'.callsOn s' = w.callsOn s'

theorem lt_of_session (h : w.sessions[s]? = some session) : s < w.sessions.length :=
  (List.getElem?_eq_some_iff.1 h).1

theorem lt_of_check {c : CheckId} {check : RunningCheck} (h : w.checks[c]? = some check) :
    c < w.checks.length :=
  (List.getElem?_eq_some_iff.1 h).1

theorem exists_session (h : s < w.sessions.length) : ∃ session, w.sessions[s]? = some session :=
  ⟨_, List.getElem?_eq_getElem h⟩

theorem lock_session (h : w.sessions[s]? = some session) :
    w.lock (.session s) = session.lock.on w.loop := by
  simp [lock, h]

theorem owner?_eq (h : w.sessions[s]? = some session) : w.owner? s = session.owner := by
  simp [owner?, h]

theorem call_eq (b : Backend σ) (t : TaskId) (c : Call) (h : w.sessions[s]? = some session) :
    w.call b t s c = ((b.respond c session.backend).1,
      { w with
        sessions :=
  w.sessions.modify s fun x => { x with backend := (b.respond c session.backend).2 }
        history := .called t s c :: w.history }) := by
  simp [call, backend?, h, updateSession]

/-- The start of a check is a call, and one more check that runs. -/
theorem startCheck_eq (b : Backend σ) (t : TaskId) (τ : Timeout)
    (h : w.sessions[s]? = some session) :
    w.startCheck b t s τ = (w.checks.length,
      { w with
        sessions := w.sessions.modify s fun x =>
          { x with checks := x.checks + 1, backend := (b.respond (.check τ) session.backend).2 }
        checks := w.checks ++ [⟨s, (b.respond (.check τ) session.backend).1, false⟩]
        history := .called t s (.check τ) :: w.history }) := by
  have counted : (w.updateSession s fun x => { x with checks := x.checks + 1 }).sessions[s]? =
      some { session with checks := session.checks + 1 } := by
    simp [updateSession, h]
  simp only [startCheck, call_eq b t (.check τ) counted]
  simp [updateSession, List.modify_modify_eq, Function.comp_def]

theorem callsOn_called {w' : World σ} {t : TaskId} {c : Call}
    (h : w'.history = .called t s c :: w.history) (s' : SessionId) :
    w'.callsOn s' = w.callsOn s' ++ if s = s' then [(t, c)] else [] := by
  by_cases e : s = s' <;> simp [callsOn, h, Occurrence.callOn?, e]

theorem callsOn_ended {w' : World σ} {c : CheckId} (h : w'.history = .ended c :: w.history)
    (s : SessionId) : w'.callsOn s = w.callsOn s := by
  simp [callsOn, h, Occurrence.callOn?]

/-! ## Revisions -/

theorem revised_self (h : w.sessions[s]? = some session) : w.Revised w s session :=
  ⟨.of_eq rfl rfl rfl rfl, rfl, h, fun _ _ => rfl, rfl, rfl, rfl, rfl, fun _ _ => rfl⟩

theorem revised_updateSession (h : w.sessions[s]? = some session)
    (f : SessionState σ → SessionState σ) : w.Revised (w.updateSession s f) s (f session) where
  grows := .of_eq (by simp [updateSession]) rfl rfl rfl
  length := by simp [updateSession]
  session := by simp [updateSession, h]
  others s' other := by simp [updateSession, Ne.symm other]
  loop := rfl
  providerLock := rfl
  shared := rfl
  creations := rfl
  calls _ _ := rfl

theorem revised_call (b : Backend σ) (t : TaskId) (c : Call) (h : w.sessions[s]? = some session) :
    w.Revised (w.call b t s c).2 s { session with backend := (b.respond c session.backend).2 } := by
  rw [call_eq b t c h]
  refine ⟨.of_eq (by simp) rfl rfl rfl, by simp, by simp [h], fun s' other => ?_, rfl, rfl, rfl,
    rfl, fun s' other => ?_⟩
  · simp [Ne.symm other]
  · rw [callsOn_called rfl, if_neg (Ne.symm other), List.append_nil]

theorem revised_startCheck (b : Backend σ) (t : TaskId) (τ : Timeout)
    (h : w.sessions[s]? = some session) :
    w.Revised (w.startCheck b t s τ).2 s { session with
      checks := session.checks + 1
      backend := (b.respond (.check τ) session.backend).2 } := by
  rw [startCheck_eq b t τ h]
  refine ⟨⟨by simp, Nat.le_refl _, id, fun c check e => ⟨check, ?_, rfl⟩⟩, by simp, by simp [h],
    fun s' other => ?_, rfl, rfl, rfl, rfl, fun s' other => ?_⟩
  · exact (List.getElem?_append_left (List.getElem?_eq_some_iff.1 e).1).trans e
  · simp [Ne.symm other]
  · rw [callsOn_called rfl, if_neg (Ne.symm other), List.append_nil]

end World

end RecordAudit
