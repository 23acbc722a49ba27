import RecordAudit.Proofs.Session.Results
import RecordAudit.Proofs.Solver.Reported

/-!
# What programs give

A property that a program's result has whatever is responded to the program. A run of tasks keeps
such properties, in every order of events and with every machine, so that the values of its tasks
have them.
-/

namespace RecordAudit

open TaskM

variable {σ α β : Type}

/-! ## Programs -/

/-- The result has the property, whatever is responded. -/
def Program.Gives (P : α → Prop) : Program α → Prop
  | .done a => P a
  | .ask _ next => ∀ response, (next response).Gives P

/-- What a task comes to has the property, unless the task is interrupted. -/
def TaskM.Gives (P : α → Prop) (p : TaskM α) : Prop :=
  Program.Gives (fun result => ∀ a, result = .ok a → P a) p.run

variable {P P' : α → Prop} {Q : β → Prop}

theorem Program.Gives.mono {p : Program α} (h : p.Gives P) (weaker : ∀ a, P a → P' a) :
    p.Gives P' := by
  induction p with
  | done a => exact weaker a h
  | ask r next ih => exact fun response => ih response (h response)

theorem Program.Gives.bind {p : Program α} {f : α → Program β} (h : p.Gives P)
    (hf : ∀ a, P a → (f a).Gives Q) :
    (p >>= f).Gives Q := by
  induction p with
  | done a => exact hf a h
  | ask r next ih => exact fun response => ih response (h response)

namespace TaskM

theorem gives_true (p : TaskM α) : p.Gives fun _ => True := by
  have given : ∀ p : Program (Except Interrupt α), p.Gives fun result => ∀ a, result = .ok a →
      True := by
    intro p
    induction p with
    | done result => exact fun _ _ => trivial
    | ask r next ih => exact ih
  exact given p.run

namespace Gives

theorem mono {p : TaskM α} (h : p.Gives P) (weaker : ∀ a, P a → P' a) : p.Gives P' :=
  Program.Gives.mono h fun _ given a same => weaker a (given a same)

theorem pure {a : α} (h : P a) : (Pure.pure a : TaskM α).Gives P := by
  rintro b ⟨⟩
  exact h

theorem ofExcept {x : Except Fault α} (h : ∀ a, x = .ok a → P a) : (TaskM.ofExcept x).Gives P := by
  cases x with
  | ok a => exact pure (h a rfl)
  | error f => exact nofun

theorem bind {p : TaskM α} {f : α → TaskM β} (h : p.Gives P) (hf : ∀ a, P a → (f a).Gives Q) :
    (p >>= f).Gives Q := by
  unfold TaskM.Gives
  rw [ExceptT.run_bind]
  refine Program.Gives.bind h fun result given => ?_
  cases result with
  | ok a => exact hf a (given a rfl)
  | error e => exact nofun

/-- Going on from a fault, the handler has to give the property too. -/
theorem recover {body : TaskM α} {handler : Fault → α} (h : body.Gives P)
    (hf : ∀ f, P (handler f)) :
    (TaskM.recover body handler).Gives P := by
  refine Program.Gives.bind h fun result given => ?_
  rcases result with (f | _) | a
  · rintro b ⟨⟩
    exact hf f
  · exact nofun
  · exact given

theorem mapM {f : β → TaskM α} {bs : List β} (h : ∀ b ∈ bs, (f b).Gives P) :
    (bs.mapM f).Gives fun as => ∀ a ∈ as, P a := by
  induction bs with
  | nil => exact pure (by simp)
  | cons b rest ih =>
    rw [List.mapM_cons]
    refine (h b (by simp)).bind fun a first => ?_
    refine (ih fun b' mem => h b' (by simp [mem])).bind fun as others => pure fun a' mem => ?_
    rcases List.mem_cons.1 mem with rfl | mem
    · exact first
    · exact others a' mem

end Gives

end TaskM

/-! ## Runs -/

/-- What a task will come to, or has come to, has the property. -/
def TaskState.Gives (P : Except Interrupt α → Prop) : TaskState α → Prop
  | .unstarted p => p.Gives P
  | .waiting _ next _ => ∀ response, (next response).Gives P
  | .finished result => P result

variable {R : Except Interrupt α → Prop} {run : Run σ α}

theorem Program.Gives.advance {p : Program (Except Interrupt α)} (h : p.Gives R) (m : Machine σ)
    (t : TaskId) (w : World σ) : (p.advance m t w).1.Gives R := by
  induction p generalizing w with
  | done result => exact h
  | ask r next ih =>
    rw [Program.advance]
    split
    · next response w' _ => exact ih response (h response) w'
    · exact h

theorem Program.Gives.runAlone {p : Program α} (h : p.Gives P) {m : Surroundings σ} {t : TaskId}
    {w : World σ} {a : α} (came : (w.runAlone m t p).1 = some a) : P a := by
  induction p generalizing w with
  | done b =>
    cases came
    exact h
  | ask r next ih =>
    rw [World.runAlone] at came
    split at came
    · exact ih _ (h _) came
    · dsimp only at came
      split at came
      · exact ih _ (h _) came
      · cases came

namespace Run

/-- What every task will come to, or has come to, has the property. -/
def Gives (R : Except Interrupt α → Prop) (run : Run σ α) : Prop :=
  ∀ state ∈ run.tasks, state.Gives R

namespace Gives

theorem ofPrograms {programs : List (TaskM α)} (h : ∀ p ∈ programs, p.run.Gives R) (w : World σ) :
    (Run.ofPrograms w programs).Gives R := by
  intro state mem
  obtain ⟨p, isProgram, rfl⟩ := List.mem_map.1 mem
  exact h p isProgram

theorem setTask (h : run.Gives R) {next : TaskState α × World σ} (given : next.1.Gives R)
    (t : TaskId) :
    (run.setTask t next).Gives R := by
  intro state mem
  rcases List.mem_or_eq_of_mem_set mem with before | rfl
  · exact h state before
  · exact given

theorem goesOn (h : run.Gives R) {t : TaskId} {p : Program (Except Interrupt α)} {w : World σ}
    (goesOn : run.GoesOn t p w) : p.Gives R := by
  cases goesOn with
  | started there => exact h _ (List.mem_of_getElem? there)
  | answered there | cancelled there => exact h _ (List.mem_of_getElem? there) _

theorem step (h : run.Gives R) (m : Machine σ) (t : TaskId) : (run.step m t).Gives R := by
  rcases step_goesOn m t run with same | ⟨p, w, goesOn, e⟩
  · rwa [same]
  · rw [e]
    exact h.setTask ((h.goesOn goesOn).advance m t w) t

/-- A task that is cancelled has to give the property too when it never started. -/
theorem cancel (h : run.Gives R) (cancelled : R (.error .cancelled)) (t : TaskId) :
    (run.cancel t).Gives R := by
  unfold Run.cancel
  split
  · refine h.setTask ?_ t
    exact cancelled
  · next r next _ there =>
    have given := h _ (List.mem_of_getElem? there)
    intro state mem
    rcases List.mem_or_eq_of_mem_set mem with before | rfl
    · exact h state before
    · exact given
  · exact h

theorem apply (h : run.Gives R) (cancelled : R (.error .cancelled)) (m : Machine σ) (e : Event σ) :
    (run.apply m e).Gives R := by
  cases e with
  | step t => exact h.step m t
  | endCheck c | deliver c outcome => exact h
  | cancel t => exact h.cancel cancelled t

theorem applyAll (h : run.Gives R) (cancelled : R (.error .cancelled)) (m : Machine σ)
    (events : List (Event σ)) :
    (run.applyAll m events).Gives R := by
  induction events generalizing run with
  | nil => exact h
  | cons e rest ih => exact ih (h.apply cancelled m e)

theorem round (h : run.Gives R) (m : Surroundings σ) : (run.round m).Gives R := by
  have steps : ∀ (ts : List TaskId) {run : Run σ α}, run.Gives R →
      (ts.foldl (fun run t => run.step m.toMachine t) run).Gives R := by
    intro ts
    induction ts with
    | nil => exact fun h => h
    | cons t rest ih => exact fun h => ih (h.step m.toMachine t)
  exact steps _ h

theorem rounds (h : run.Gives R) (m : Surroundings σ) (bound : Nat) :
    (run.rounds m bound).Gives R := by
  induction bound generalizing run with
  | zero => exact h
  | succ bound ih =>
    rw [Run.rounds]
    split
    · exact h
    · exact ih (h.round m)

theorem results {P : α → Prop} (h : run.Gives fun result => ∀ a, result = .ok a → P a)
    {values : List α} (came : run.results = .ok values) : ∀ value ∈ values, P value := by
  rcases look_through (run.order.filterMap fun t => run.tasks[t]?.bind TaskState.result?)
    ((run.tasks.filterMap TaskState.result?).mapM id) with ⟨-, same⟩ | ⟨-, e, -, -, -, fails⟩
  · intro value mem
    have pairs := mapM_eq_ok_iff.1 (same.symm.trans came)
    obtain ⟨result, inResults, rfl⟩ := exists_of_forall₂ pairs mem
    obtain ⟨state, inTasks, finished⟩ := List.mem_filterMap.1 inResults
    cases state with
    | finished result =>
      cases finished
      exact h _ inTasks value rfl
    | unstarted p | waiting r next cancelled => cases finished
  · cases fails.symm.trans came

end Gives

end Run

end RecordAudit
