import Mathlib.Tactic.Common
import RecordAudit.Check.Basic

/-!
# How often tasks wait

A bound on how often a program asks for what it may have to wait for, when it gets what it waits
for. Each operation has its own bound, and bounds add up.
-/

namespace RecordAudit

open TaskM

variable {α β : Type} {n k : Nat}

/-- What is left of a bound after a request: one less when the request may have to wait. -/
def Request.Within : (r : Request) → Nat → (r.Response → Nat → Prop) → Prop
  | .acquire _, n, K => ∃ k, n = k + 1 ∧ ∀ a, K (some a) k
  | .awaitCheck _, n, K => ∃ k, n = k + 1 ∧ ∀ a, K (some a) k
  | .awaitCreation _, n, K => ∃ k, n = k + 1 ∧ ∀ a, K (some a) k
  | _, n, K => ∀ a, K a n

/-- The program waits no more often than this. -/
def Program.Within : Program α → Nat → Prop
  | .done _, _ => True
  | .ask r next, n => r.Within n fun response k => (next response).Within k

def TaskM.Within (p : TaskM α) (n : Nat) : Prop := Program.Within p.run n

theorem Request.Within.add {r : Request} {K K' : r.Response → Nat → Prop}
    (hK : ∀ a j, K a j → K' a (j + k)) (h : r.Within n K) : r.Within (n + k) K' := by
  cases r with
  | acquire l | awaitCheck c | awaitCreation c =>
    obtain ⟨j, rfl, h⟩ := h
    exact ⟨j + k, Nat.add_right_comm j 1 k, fun a => hK _ j (h a)⟩
  | release l | claim s | disclaim s | owns s | push s | pop s | add s a | startCheck s τ | shared
  | startCreation | install s | forget => exact fun a => hK a n (h a)

namespace Program

theorem Within.bind {p : Program α} {f : α → Program β} (h : p.Within n)
    (hf : ∀ a, (f a).Within k) :
    (p >>= f).Within (n + k) := by
  induction p generalizing n with
  | done a =>
    have more : ∀ {p : Program β} {j : Nat}, p.Within j → p.Within (j + n) := by
      intro p
      induction p with
      | done b => exact fun _ => trivial
      | ask r next ih => exact fun h => Request.Within.add (fun a j h => ih a h) h
    rw [done_bind, Nat.add_comm]
    exact more (hf a)
  | ask r next ih => exact Request.Within.add (fun a j h => ih a h) h

theorem Within.mono {p : Program α} {n' : Nat} (h : p.Within n) (le : n ≤ n') : p.Within n' := by
  obtain ⟨k, rfl⟩ := Nat.exists_eq_add_of_le le
  exact p.bind_done ▸ h.bind (f := .done) fun _ => trivial

end Program

namespace TaskM

theorem Within.mono {p : TaskM α} {n' : Nat} (h : p.Within n) (le : n ≤ n') : p.Within n' :=
  Program.Within.mono h le

theorem within_ofExcept (x : Except Fault α) : (ofExcept x).Within 0 := by cases x <;> trivial

theorem Within.bind {p : TaskM α} {f : α → TaskM β} (h : p.Within n) (hf : ∀ a, (f a).Within k) :
    (p >>= f).Within (n + k) := by
  unfold Within
  rw [ExceptT.run_bind]
  refine Program.Within.bind h fun result => ?_
  cases result with
  | ok a => exact hf a
  | error e => trivial

theorem Within.ensuring {body : TaskM α} {conclusion : TaskM Unit} (h : body.Within n)
    (hc : conclusion.Within 0) : (ensuring body conclusion).Within n := by
  refine Program.Within.bind (k := 0) h fun result => ?_
  refine Program.Within.bind (n := 0) (k := 0) hc fun after => ?_
  cases after <;> trivial

theorem Within.orElse {body : TaskM α} {amends : TaskM Unit} (h : body.Within n)
    (ha : amends.Within 0) :
    (orElse body amends).Within n := by
  refine Program.Within.bind (k := 0) h fun result => ?_
  cases result with
  | ok a => trivial
  | error e =>
    refine Program.Within.bind (n := 0) (k := 0) ha fun after => ?_
    cases after <;> trivial

theorem Within.recover {body : TaskM α} (h : body.Within n) (handler : Fault → α) :
    (recover body handler).Within n := by
  refine Program.Within.bind (k := 0) h fun result => ?_
  rcases result with (_ | _) | _ <;> trivial

theorem within_forM {f : α → TaskM Unit} (h : ∀ a, (f a).Within 0) (as : List α) :
    (as.forM f).Within 0 := by
  induction as with
  | nil => trivial
  | cons a rest ih => exact (h a).bind (k := 0) fun _ => ih

theorem within_mapM {f : α → TaskM β} (h : ∀ a, (f a).Within n) (as : List α) :
    (as.mapM f).Within (n * as.length) := by
  induction as with
  | nil => trivial
  | cons a rest ih =>
    rw [List.mapM_cons, List.length_cons, Nat.mul_succ, Nat.add_comm]
    exact (h a).bind fun _ => ih.bind (k := 0) fun _ => trivial

end TaskM

/-! ## Operations -/

namespace Session

variable {s : SessionId}

theorem within_requireScope (s : SessionId) : (requireScope s).Within 0 := by
  intro owned
  cases owned <;> trivial

theorem within_push (s : SessionId) : (push s).Within 0 := fun reply => within_ofExcept reply

theorem within_pop (s : SessionId) : (pop s).Within 0 := fun reply => within_ofExcept reply

theorem within_add (s : SessionId) (a : Operand) : (add s a).Within 0 :=
  (within_requireScope s).bind (k := 0) fun _ reply => within_ofExcept reply

theorem within_enter (s : SessionId) : (enter s).Within 1 := by
  refine ⟨0, rfl, fun _ => ?_⟩
  exact Within.orElse (n := 0) (fun _ => within_push s) fun _ => trivial

theorem within_leave (s : SessionId) : (leave s).Within 0 := by
  refine Within.ensuring ?_ fun _ => trivial
  exact (within_pop s).bind (k := 0) fun _ _ => trivial

theorem within_scope {body : TaskM α} (h : body.Within n) : (scope s body).Within (1 + n) :=
  (within_enter s).bind fun _ => h.ensuring (within_leave s)

theorem within_frame {body : TaskM α} (h : body.Within n) : (frame s body).Within n := by
  have opened : (openFrame s).Within 0 :=
    (within_requireScope s).bind (k := 0) fun _ => within_push s
  exact (opened.bind fun _ => h.ensuring (within_pop s)).mono (Nat.le_of_eq (Nat.zero_add n))

theorem within_check (s : SessionId) (timeout : Timeout) : (check s timeout).Within 1 :=
  (within_requireScope s).bind (k := 1) fun _ _ => ⟨0, rfl, fun answer => within_ofExcept answer⟩

theorem within_current : current.Within 0 := fun shared => by cases shared <;> trivial

theorem within_create : create.Within 1 := by
  intro shared
  cases shared with
  | some s => trivial
  | none =>
    intro c
    exact ⟨0, rfl, fun outcome => (within_ofExcept outcome).bind (k := 0) fun _ _ => trivial⟩

/-- The shared session is waited for once, and once more by the task that creates it. -/
theorem within_get : get.Within 2 := by
  intro shared
  cases shared with
  | some s => trivial
  | none =>
    refine ⟨1, rfl, fun _ => ?_⟩
    have created : (ensuring create (ask (.release .provider))).Within 1 :=
      within_create.ensuring fun _ => trivial
    exact created.bind (k := 0) fun _ => within_current

end Session

/-! ## Checks of constraints -/

namespace Constraint

theorem within_bind (c : Constraint) (s : SessionId) (values : FieldValues) :
    (c.bind s values).Within 0 :=
  within_forM (fun _ => (within_ofExcept _).bind (k := 0) fun _ => Session.within_add s _)
    c.kinds.entries

theorem within_findWitness (c : Constraint) (s : SessionId) (timeout : Timeout) :
    (c.findWitness s timeout).Within 1 :=
  (Session.within_check s timeout).bind (k := 0) fun _ => trivial

theorem within_examine (c : Constraint) (s : SessionId) (witnessed : Bool) (timeout : Timeout)
    (values : FieldValues) : (c.examine s witnessed timeout values).Within 3 := by
  refine Session.within_scope (n := 2) ?_
  refine (within_ofExcept c.assertions).bind (k := 2) fun as => ?_
  refine (within_forM (Session.within_add s) as).bind (k := 2) fun _ => ?_
  have answered : (Session.frame s do c.bind s values; Session.check s timeout).Within 1 :=
    Session.within_frame ((c.within_bind s values).bind (k := 1) fun _ =>
      Session.within_check s timeout)
  refine answered.bind (k := 1) fun answer => ?_
  split
  · exact (c.within_findWitness s timeout).bind (k := 0) fun _ => trivial
  · exact trivial

/-- The check of a constraint waits for its scope, for the check and for the check for a witness. -/
theorem within_check (c : Constraint) (s : SessionId) (witnessed : Bool) (timeout : Timeout)
    (values : FieldValues) : (c.check s witnessed timeout values).Within 3 := by
  refine Within.recover ?_ _
  exact (c.within_examine s witnessed timeout values).bind (k := 0) fun _ => trivial

end Constraint

theorem within_checkRecord (settings : SolverSettings) (record : Record)
    (constraints : List Constraint) (specs : List FieldSpec) (timeout : Timeout) :
    (checkRecord settings record constraints specs timeout).Within
      (2 + 3 * (constraints ++ compileFieldRules specs).length) :=
  ((within_ofExcept _).bind (n := 0) fun _ => Session.within_get.bind fun _ =>
    within_mapM (fun c => c.within_check _ _ _ _) _).mono (Nat.le_of_eq (Nat.zero_add _))

end RecordAudit
