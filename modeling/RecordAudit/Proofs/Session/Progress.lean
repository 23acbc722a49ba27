import RecordAudit.Proofs.Session.Settling
import RecordAudit.Proofs.Session.Waits

/-!
# Progress

Every task has a bound on how often it still waits. A step that gets a task past a waiting place
lowers the sum of these bounds, and in a settled run some task can take one. So no order of events
is a deadlock, and rounds finish all tasks.
-/

namespace RecordAudit

variable {σ α : Type} {m : Machine σ} {t : TaskId} {n k : Nat}

/-! ## Bounds -/

theorem Request.Within.granted {r : Request} {K : r.Response → Nat → Prop} (h : r.Within n K)
    {w : World σ} {response : r.Response} (came : w.response? t r = some response) :
    ∃ k < n, K response k := by
  cases r with
  | acquire l =>
    obtain ⟨k, rfl, h⟩ := h
    rw [World.response?] at came
    split at came
    · cases came
      exact ⟨k, Nat.lt_succ_self k, h ()⟩
    · cases came
  | awaitCheck c =>
    obtain ⟨k, rfl, h⟩ := h
    rw [World.response?] at came
    split at came
    · next check e =>
      split at came
      · cases came
        exact ⟨k, Nat.lt_succ_self k, h _⟩
      · cases came
    · cases came
  | awaitCreation c =>
    obtain ⟨k, rfl, h⟩ := h
    rw [World.response?] at came
    split at came
    · cases came
      exact ⟨k, Nat.lt_succ_self k, h _⟩
    · cases came
  | release l | claim s | disclaim s | owns s | push s | pop s | add s a | startCheck s τ | shared
  | startCreation | install s | forget => cases came

theorem Request.Within.request {r : Request} {K : r.Response → Nat → Prop} (h : r.Within n K)
    {w w' : World σ} {response : r.Response} (came : w.request m t r = (some response, w')) :
    ∃ k ≤ n, K response k := by
  have granted : ∀ w : World σ, w.response? t r = some response →
      ∃ k ≤ n, K response k := fun w e => by
    obtain ⟨k, lt, h⟩ := h.granted e
    exact ⟨k, Nat.le_of_lt lt, h⟩
  cases r with
  | acquire l => exact granted _ (congrArg Prod.fst came)
  | awaitCheck c | awaitCreation c => exact granted _ (congrArg Prod.fst came)
  | release l | claim s | disclaim s | owns s | push s | pop s | add s a | startCheck s τ | shared
  | startCreation | install s | forget => exact ⟨n, Nat.le_refl n, h _⟩

namespace TaskState

/-- A task gets past no more waiting places than this; the start counts as one. -/
def Within : TaskState α → Nat → Prop
  | .unstarted p, n => ∃ k, n = k + 1 ∧ p.Within k
  | .waiting r next false, n => (Program.ask r next).Within n
  | .waiting _ _ true, _ => False
  | .finished _, _ => True

theorem Within.mono {state : TaskState α} (h : state.Within n) (le : n ≤ k) : state.Within k := by
  cases state with
  | unstarted p =>
    obtain ⟨j, rfl, h⟩ := h
    obtain ⟨j', rfl⟩ := Nat.exists_eq_add_of_le' (Nat.le_trans (Nat.le_add_left 1 j) le)
    exact ⟨j', rfl, h.mono (Nat.le_of_succ_le_succ le)⟩
  | waiting r next cancelled =>
    cases cancelled with
    | false => exact Program.Within.mono h le
    | true => exact h
  | finished result => trivial

def isUnstarted : TaskState α → Bool
  | .unstarted _ => true
  | _ => false

end TaskState

/-- A program goes on to a waiting place within its bound. -/
theorem Program.advance_within {p : Program (Except Interrupt α)} (h : p.Within n) (w : World σ) :
    (p.advance m t w).1.Within n ∧ (p.advance m t w).1.isUnstarted = false := by
  induction p generalizing n w with
  | done result => exact ⟨trivial, rfl⟩
  | ask r next ih =>
    rw [Program.advance]
    split
    · next response w' e =>
      obtain ⟨k, le, h⟩ := Request.Within.request h e
      obtain ⟨within, started⟩ := ih response h w'
      exact ⟨within.mono le, started⟩
    · exact ⟨h, rfl⟩

/-- The tasks of a list get past no more waiting places than this, all together. -/
def WithinAll : List (TaskState α) → Nat → Prop
  | [], _ => True
  | state :: rest, n => ∃ j k, n = j + k ∧ state.Within j ∧ WithinAll rest k

namespace WithinAll

variable {tasks : List (TaskState α)} {state : TaskState α}

theorem of_forall (h : ∀ state ∈ tasks, state.Within n) : WithinAll tasks (tasks.length * n) := by
  induction tasks with
  | nil => trivial
  | cons state rest ih =>
    refine ⟨n, rest.length * n, ?_, h state (by simp), ih fun s hs => h s (by simp [hs])⟩
    rw [List.length_cons, Nat.succ_mul, Nat.add_comm]

theorem get (h : WithinAll tasks n) (there : tasks[t]? = some state) : ∃ k, state.Within k := by
  induction tasks generalizing t n with
  | nil => cases there
  | cons first rest ih =>
    obtain ⟨j, k, rfl, within, others⟩ := h
    cases t with
    | zero =>
      cases there
      exact ⟨j, within⟩
    | succ t => exact ih others there

theorem set (h : WithinAll tasks n) (there : tasks[t]? = some state) {state' : TaskState α}
    (lower : ∀ k, state.Within k → ∃ j < k, state'.Within j) :
    ∃ k < n, WithinAll (tasks.set t state') k := by
  induction tasks generalizing t n with
  | nil => cases there
  | cons first rest ih =>
    obtain ⟨j, k, rfl, within, others⟩ := h
    cases t with
    | zero =>
      cases there
      obtain ⟨i, lt, within'⟩ := lower j within
      exact ⟨i + k, Nat.add_lt_add_right lt k, i, k, rfl, within', others⟩
    | succ t =>
      obtain ⟨i, lt, others'⟩ := ih others there
      exact ⟨j + i, Nat.add_lt_add_left lt j, j, i, rfl, within, others'⟩

end WithinAll

/-! ## Steps -/

namespace Run

variable {run : Run σ α}

def Ready (run : Run σ α) (t : TaskId) : Prop :=
  (∃ p, run.tasks[t]? = some (.unstarted p)) ∨
    ∃ r next, run.tasks[t]? = some (.waiting r next false) ∧ (run.world.response? t r).isSome = true

theorem step_within (h : WithinAll run.tasks n) (ready : run.Ready t) :
    ∃ k < n, WithinAll (run.step m t).tasks k := by
  rcases ready with ⟨p, there⟩ | ⟨r, next, there, come⟩
  · have e : run.step m t = run.setTask t (p.advance m t run.world) := by
      simp only [Run.step, there]
    rw [e]
    refine h.set there ?_
    rintro k ⟨j, rfl, within⟩
    exact ⟨j, Nat.lt_succ_self j, (Program.advance_within within run.world).1⟩
  · obtain ⟨response, came⟩ := Option.isSome_iff_exists.1 come
    have e : run.step m t = run.setTask t ((next response).advance m t run.world) := by
      simp only [Run.step, there, came]
    rw [e]
    refine h.set there fun k within => ?_
    obtain ⟨j, lt, within⟩ := Request.Within.granted within came
    exact ⟨j, lt, (Program.advance_within within run.world).1⟩

theorem step_eq_self (h : WithinAll run.tasks n) (blocked : ¬ run.Ready t) :
    run.step m t = run := by
  unfold Run.step
  split
  · next p there => exact absurd (.inl ⟨p, there⟩) blocked
  · next there =>
    obtain ⟨k, within⟩ := h.get there
    exact within.elim
  · next r next there =>
    split
    · next response came => exact absurd (.inr ⟨r, next, there, by rw [came]; rfl⟩) blocked
    · rfl
  · rfl

/-- After steps of some tasks either the bound is lower, or none of them could go on. -/
theorem steps_within (h : WithinAll run.tasks n) (ts : List TaskId) :
    (∃ k < n, WithinAll (ts.foldl (fun run t => run.step m t) run).tasks k) ∨
      ts.foldl (fun run t => run.step m t) run = run ∧ ∀ t ∈ ts, ¬ run.Ready t := by
  induction ts generalizing run n with
  | nil => exact .inr ⟨rfl, by simp⟩
  | cons t rest ih =>
    rw [List.foldl_cons]
    by_cases ready : run.Ready t
    · obtain ⟨j, lt, within⟩ := step_within (m := m) h ready
      rcases ih within with ⟨k, lt', within'⟩ | ⟨same, -⟩
      · exact .inl ⟨k, Nat.lt_trans lt' lt, within'⟩
      · exact .inl ⟨j, lt, by rwa [same]⟩
    · rw [step_eq_self h ready]
      refine (ih h).imp_right fun ⟨same, blocked⟩ => ⟨same, fun u hu => ?_⟩
      rcases List.mem_cons.1 hu with rfl | hu
      · exact ready
      · exact blocked u hu

end Run

end RecordAudit
