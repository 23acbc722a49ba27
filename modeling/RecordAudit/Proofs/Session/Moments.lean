import RecordAudit.Session.Run

/-!
# Moments of a step

A step takes a task through many requests. Between any two of them is a moment, with what the task
has still to do and the world as it is then.
-/

namespace RecordAudit

variable {σ α : Type} {m : Machine σ} {t : TaskId}

/-- The moments of a program up to the next place where it has to wait: before each request, and at
its end. -/
def Program.moments (m : Machine σ) (t : TaskId) :
    Program (Except Interrupt α) → World σ → List (Program (Except Interrupt α) × World σ)
  | .done result, w => [(.done result, w)]
  | .ask r next, w =>
    (.ask r next, w) :: match w.request m t r with
      | (some response, w) => (next response).moments m t w
      | (none, _) => []

/-- A step ends in the last of its moments, where the program has ended or has to wait. -/
theorem Program.exists_last_moment (m : Machine σ) (t : TaskId) (p : Program (Except Interrupt α))
    (w : World σ) :
    (∃ before result w', p.moments m t w = before ++ [(.done result, w')] ∧
      p.advance m t w = (.finished result, w')) ∨
      ∃ before r next w', p.moments m t w = before ++ [(.ask r next, w')] ∧
        (w'.request m t r).1 = none ∧
        p.advance m t w = (.waiting r next false, (w'.request m t r).2) := by
  induction p generalizing w with
  | done result => exact .inl ⟨[], result, w, rfl, rfl⟩
  | ask r next ih =>
    rw [moments, advance]
    rcases e : w.request m t r with ⟨_ | response, w₁⟩
    · exact .inr ⟨[], r, next, w, rfl, by rw [e], by rw [e]⟩
    · refine (ih response w₁).imp ?_ ?_
      · rintro ⟨before, result, w', last, ends⟩
        exact ⟨_ :: before, result, w', congrArg _ last, ends⟩
      · rintro ⟨before, r', next', w', last, waits⟩
        exact ⟨_ :: before, r', next', w', congrArg _ last, waits⟩

/-- What a task goes on with, if it can go on, and the world in which it does. -/
def TaskState.resumption (t : TaskId) (w : World σ) :
    TaskState α → Option (Program (Except Interrupt α) × World σ)
  | .unstarted p => some (p, w)
  | .waiting r next true => (w.cancelled? t r).map fun x => (next x.1, x.2)
  | .waiting r next false => (w.response? t r).map fun response => (next response, w)
  | .finished _ => none

namespace Run

/-- What a task goes on with in its next step. -/
def resumption (t : TaskId) (run : Run σ α) : Option (Program (Except Interrupt α) × World σ) :=
  run.tasks[t]?.bind (·.resumption t run.world)

theorem step_eq (m : Machine σ) (t : TaskId) (run : Run σ α) :
    run.step m t = match run.resumption t with
      | some (p, w) => run.setTask t (p.advance m t w)
      | none => run := by
  unfold step resumption
  cases run.tasks[t]? with
  | none => rfl
  | some state =>
    cases state with
    | unstarted p => rfl
    | waiting r next cancelled =>
      cases cancelled with
      | true =>
        dsimp only [Option.bind_some, TaskState.resumption]
        cases run.world.cancelled? t r <;> rfl
      | false =>
        dsimp only [Option.bind_some, TaskState.resumption]
        cases run.world.response? t r <;> rfl
    | finished result => rfl

/-- The moments of the next step of a task. -/
def moments (m : Machine σ) (t : TaskId) (run : Run σ α) :
    List (Program (Except Interrupt α) × World σ) :=
  match run.resumption t with
  | some (p, w) => p.moments m t w
  | none => []

/-- The moments of the steps of a task while events happen, in order. -/
def passed (m : Machine σ) (t : TaskId) (run : Run σ α) :
    List (Event σ) → List (Program (Except Interrupt α) × World σ)
  | [] => []
  | .step u :: rest => (if u = t then run.moments m t else []) ++ (run.step m u).passed m t rest
  | e :: rest => (run.apply m e).passed m t rest

end Run

end RecordAudit
