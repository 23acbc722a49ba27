import Mathlib.Data.List.Induction
import RecordAudit.Proofs.Session.Completion

/-!
# Results of runs

The results of a run are those of its tasks, or the first interrupt in the order of time. A task
whose program asks for nothing finishes with its first step, and so before all tasks that start
later.
-/

namespace RecordAudit

variable {σ α : Type} {m : Machine σ} {run : Run σ α} {t : TaskId} {clean : σ → Prop}

/-! ## The order of time -/

theorem split_concat {α : Type} {order pre mid : List α} {t u : α}
    (split : order ++ [u] = pre ++ t :: mid) :
    (order = pre ∧ u = t ∧ mid = []) ∨ ∃ mid', mid = mid' ++ [u] ∧ order = pre ++ t :: mid' := by
  rcases List.eq_nil_or_concat mid with rfl | ⟨mid', v, rfl⟩
  · obtain ⟨whole, last⟩ := List.append_inj' split rfl
    exact .inl ⟨whole, List.singleton_inj.1 last, rfl⟩
  · rw [List.concat_eq_append, ← List.cons_append, ← List.append_assoc] at split
    obtain ⟨whole, last⟩ := List.append_inj' split rfl
    exact .inr ⟨mid', by rw [List.concat_eq_append, List.singleton_inj.1 last], whole⟩

theorem getElem?_concat_cases {α : Type} {l : List α} {x y : α} {i : Nat}
    (there : (l ++ [x])[i]? = some y) :
    l[i]? = some y ∨ i = l.length ∧ x = y := by
  rcases Nat.lt_trichotomy i l.length with old | rfl | beyond
  · exact .inl ((List.getElem?_append_left old).symm.trans there)
  · exact .inr ⟨rfl, Option.some.inj (List.getElem?_concat_length.symm.trans there)⟩
  · have within := (List.getElem?_eq_some_iff.1 there).1
    rw [List.length_append, List.length_singleton] at within
    omega

namespace Run

/-- The order names exactly the tasks that have finished. -/
def Ordered (run : Run σ α) : Prop :=
  ∀ t, t ∈ run.order ↔ ∃ result, run.tasks[t]? = some (.finished result)

theorem Ordered.ofPrograms (w : World σ) (programs : List (TaskM α)) :
    (Run.ofPrograms w programs).Ordered := by
  intro t
  simp [Run.ofPrograms]

/-- The program and the world with which a task can go on: it starts, gets what it waits for, or is
cancelled and does without it. -/
inductive GoesOn (run : Run σ α) (t : TaskId) : Program (Except Interrupt α) → World σ → Prop where
  | started {p : Program (Except Interrupt α)} (there : run.tasks[t]? = some (.unstarted p)) :
      GoesOn run t p run.world
  | answered {r : Request} {next : r.Response → Program (Except Interrupt α)}
      {response : r.Response} (there : run.tasks[t]? = some (.waiting r next false))
      (came : run.world.response? t r = some response) :
      GoesOn run t (next response) run.world
  | cancelled {r : Request} {next : r.Response → Program (Except Interrupt α)}
      {response : r.Response} {w : World σ} (there : run.tasks[t]? = some (.waiting r next true))
      (left : run.world.cancelled? t r = some (response, w)) :
      GoesOn run t (next response) w

theorem GoesOn.unfinished {p : Program (Except Interrupt α)} {w : World σ} (h : run.GoesOn t p w) :
    ∃ state, run.tasks[t]? = some state ∧ state.result? = none := by
  cases h with
  | started there | answered there | cancelled there => exact ⟨_, there, rfl⟩

/-- What a step does: nothing, or the task goes on up to the next place where it has to wait. -/
theorem step_goesOn (m : Machine σ) (t : TaskId) (run : Run σ α) :
    run.step m t = run ∨ ∃ p w, run.GoesOn t p w ∧
      run.step m t = run.setTask t (p.advance m t w) := by
  unfold step
  split
  · next p there => exact .inr ⟨p, run.world, .started there, rfl⟩
  · next r next there =>
    split
    · next response w left => exact .inr ⟨next response, w, .cancelled there left, rfl⟩
    · exact .inl rfl
  · next r next there =>
    split
    · next response came => exact .inr ⟨next response, run.world, .answered there came, rfl⟩
    · exact .inl rfl
  · exact .inl rfl

/-- A step does nothing, or puts a task that has not finished into a new place. -/
theorem step_cases (m : Machine σ) (t : TaskId) (run : Run σ α) :
    run.step m t = run ∨ ∃ state next, run.tasks[t]? = some state ∧ state.result? = none ∧
      run.step m t = run.setTask t next := by
  rcases step_goesOn m t run with same | ⟨p, w, goesOn, e⟩
  · exact .inl same
  · obtain ⟨state, there, unfinished⟩ := goesOn.unfinished
    exact .inr ⟨state, _, there, unfinished, e⟩

section SetTask

variable {state : TaskState α} (there : run.tasks[t]? = some state)
  (unfinished : state.result? = none) (next : TaskState α × World σ)

include there

theorem tasks_setTask_self : (run.setTask t next).tasks[t]? = some next.1 :=
  List.getElem?_set_self (List.getElem?_eq_some_iff.1 there).1

include unfinished

theorem Ordered.setTask (h : run.Ordered) : (run.setTask t next).Ordered := by
  have absent : t ∉ run.order := fun mem => by
    obtain ⟨result, e⟩ := (h t).1 mem
    rw [there] at e
    cases e
    cases unfinished
  intro u
  by_cases e : u = t
  · subst e
    rw [tasks_setTask_self there]
    cases place : next.1 <;> simp [Run.setTask, place, TaskState.result?, absent]
  · have same : (run.setTask t next).tasks[u]? = run.tasks[u]? := List.getElem?_set_ne (Ne.symm e)
    rw [same, ← h u]
    cases place : next.1 <;> simp [Run.setTask, place, TaskState.result?, e]

theorem finished_setTask {u : TaskId} {result : Except Interrupt α}
    (finished : run.tasks[u]? = some (.finished result)) :
    (run.setTask t next).tasks[u]? = some (.finished result) := by
  have other : t ≠ u := fun e => by
    rw [← e, there] at finished
    cases finished
    cases unfinished
  exact (List.getElem?_set_ne other).trans finished

end SetTask

theorem Ordered.step (h : run.Ordered) (m : Machine σ) (t : TaskId) : (run.step m t).Ordered := by
  rcases step_cases m t run with same | ⟨state, next, there, unfinished, e⟩
  · rwa [same]
  · rw [e]
    exact h.setTask there unfinished next

theorem finished_step (m : Machine σ) (u : TaskId) {result : Except Interrupt α}
    (finished : run.tasks[t]? = some (.finished result)) :
    (run.step m u).tasks[t]? = some (.finished result) := by
  rcases step_cases m u run with same | ⟨state, next, there, unfinished, e⟩
  · rwa [same]
  · rw [e]
    exact finished_setTask there unfinished next finished

/-- What every step keeps, all orderly events keep that leave the tasks and the order as they
are. -/
theorem applyAll_keeps {P : List (TaskState α) → List TaskId → Prop}
    (step : ∀ (run : Run σ α) t, P run.tasks run.order →
    P (run.step m t).tasks (run.step m t).order) {events :
    List (Event σ)} (orderly : ∀ e ∈ events, e.Orderly clean) (h : P run.tasks run.order) :
    P (run.applyAll m events).tasks (run.applyAll m events).order := by
  induction events generalizing run with
  | nil => exact h
  | cons e rest ih =>
    refine ih (fun e' he' => orderly e' (by simp [he'])) ?_
    cases e with
    | step t => exact step run t h
    | endCheck c | deliver c outcome => exact h
    | cancel t => exact (orderly (.cancel t) (by simp)).elim

theorem Ordered.applyAll (h : run.Ordered) {events : List (Event σ)}
    (orderly : ∀ e ∈ events, e.Orderly clean) :
    (run.applyAll m events).Ordered :=
  applyAll_keeps (P := fun tasks order => ∀ t, t ∈ order ↔
    ∃ result, tasks[t]? = some (.finished result)) (fun _ t h => Ordered.step h m t) orderly h

theorem length_applyAll {events : List (Event σ)} (orderly : ∀ e ∈ events, e.Orderly clean) :
    (run.applyAll m events).tasks.length = run.tasks.length := by
  refine applyAll_keeps (P := fun tasks _ => tasks.length = run.tasks.length)
    (fun run' t h => ?_) orderly rfl
  rcases step_cases m t run' with same | ⟨state, next, -, -, e⟩
  · rwa [same]
  · rw [e, ← h]
    exact List.length_set

/-! ## Tasks that wait for nothing -/

/-- The task asks for nothing: it has not started, or has finished with its result. -/
def AtOnce (run : Run σ α) (t : TaskId) (result : Except Interrupt α) : Prop :=
  run.tasks[t]? = some (.unstarted (.done result)) ∨ run.tasks[t]? = some (.finished result)

variable {result : Except Interrupt α}

theorem AtOnce.finished_step (h : run.AtOnce t result) (m : Machine σ) :
    (run.step m t).tasks[t]? = some (.finished result) := by
  rcases h with there | there
  · have e : run.step m t = run.setTask t (.finished result, run.world) := by
      simp only [step, there, Program.advance]
    rw [e]
    exact tasks_setTask_self there _
  · exact Run.finished_step m t there

theorem AtOnce.step (h : run.AtOnce t result) (m : Machine σ) (u : TaskId) :
    (run.step m u).AtOnce t result := by
  by_cases same : u = t
  · rw [same]
    exact .inr (h.finished_step m)
  · rcases step_cases m u run with e | ⟨state, next, -, -, e⟩
    · rwa [e]
    · have still : (run.setTask u next).tasks[t]? = run.tasks[t]? := List.getElem?_set_ne same
      rw [e, AtOnce, still]
      exact h

/-- After orderly events it has finished if it was among them. -/
theorem AtOnce.applyAll (h : run.AtOnce t result) {events : List (Event σ)}
    (orderly : ∀ e ∈ events, e.Orderly clean) (stepped : .step t ∈ events) :
    (run.applyAll m events).tasks[t]? = some (.finished result) := by
  obtain ⟨pre, post, rfl⟩ := List.append_of_mem stepped
  rw [applyAll_append]
  have before : (run.applyAll m pre).AtOnce t result :=
    applyAll_keeps (P := fun tasks _ => tasks[t]? = some (.unstarted (.done result)) ∨
      tasks[t]? = some (.finished result)) (fun _ u h => AtOnce.step h m u)
      (fun e he => orderly e (by simp [he])) h
  change (((run.applyAll m pre).step m t).applyAll m post).tasks[t]? = _
  exact applyAll_keeps (P := fun tasks _ => tasks[t]? = some (.finished result))
    (fun _ u h => Run.finished_step m u h) (fun e he => orderly e (by simp [he]))
      (before.finished_step m)

end Run

theorem StartsInOrder.of_append {events more : List (Event σ)}
    (h : StartsInOrder (events ++ more)) :
    StartsInOrder events := by
  rintro pre j post rfl
  exact h pre j (post ++ more) (by simp)

/-- When tasks start in order, a task that asks for nothing finishes before all later ones. -/
theorem Run.atOnce_before {events : List (Event σ)} (ordered : run.Ordered)
    (unstarted : run.order = []) (orderly : ∀ e ∈ events, e.Orderly clean)
    (starts : StartsInOrder events) {pre post : List TaskId} {j : TaskId}
    (e : (run.applyAll m events).order = pre ++ j :: post) {i : TaskId} (lt : i < j)
    {result : Except Interrupt α} (atOnce : run.AtOnce i result) : i ∈ pre := by
  induction events using List.reverseRecOn generalizing post with
  | nil =>
    change run.order = _ at e
    simp [unstarted] at e
  | append_singleton events last ih =>
    have orderly' : ∀ e ∈ events, e.Orderly clean := fun e he => orderly e (by simp [he])
    have earlier : ∀ {post}, (run.applyAll m events).order = pre ++ j :: post → i ∈ pre := fun e =>
      ih orderly' starts.of_append e
    rw [applyAll_append] at e
    cases last with
    | cancel t => exact (orderly (.cancel t) (by simp)).elim
    | endCheck c | deliver c outcome => exact earlier e
    | step t =>
      change ((run.applyAll m events).step m t).order = _ at e
      rcases step_cases m t (run.applyAll m events) with same | ⟨state, next, -, -, same⟩
      · rw [same] at e
        exact earlier e
      · rw [same, setTask] at e
        split at e
        · -- the task that finishes now was stepped after all that come before it
          rcases split_concat e with ⟨rfl, rfl, -⟩ | ⟨rest, -, before⟩
          · have stepped := starts events t [] rfl i lt
            exact (ordered.applyAll orderly' i).2 ⟨result, atOnce.applyAll orderly' stepped⟩
          · exact earlier before
        · exact earlier e

/-! ## Results -/

namespace Run

theorem look_through {β : Type} (results : List (Except Interrupt α)) (after : Except Interrupt β) :
    ((∀ result ∈ results, ∃ a, result = .ok a) ∧
      (do for result in results do let _ ← result
          after) = after) ∨
    ∃ pre e post, results = pre ++ .error e :: post ∧ (∀ result ∈ pre, ∃ a, result = .ok a) ∧
      (do for result in results do let _ ← result
          after) = .error e := by
  induction results with
  | nil => exact .inl ⟨by simp, rfl⟩
  | cons result rest ih =>
    simp only [List.forIn_cons]
    cases result with
    | error e => exact .inr ⟨[], e, rest, rfl, by simp, rfl⟩
    | ok a =>
      rcases ih with ⟨oks, same⟩ | ⟨pre, e, post, rfl, oks, fails⟩
      · refine .inl ⟨fun result mem => ?_, same⟩
        rcases List.mem_cons.1 mem with rfl | mem
        · exact ⟨a, rfl⟩
        · exact oks result mem
      · refine .inr ⟨.ok a :: pre, e, post, rfl, fun result mem => ?_, fails⟩
        rcases List.mem_cons.1 mem with rfl | mem
        · exact ⟨a, rfl⟩
        · exact oks result mem

theorem exists_values {results : List (Except Interrupt α)}
    (h : ∀ result ∈ results, ∃ a, result = .ok a) :
    ∃ values : List α, results = values.map .ok := by
  induction results with
  | nil => exact ⟨[], rfl⟩
  | cons result rest ih =>
    obtain ⟨a, rfl⟩ := h result (by simp)
    obtain ⟨values, rfl⟩ := ih fun result mem => h result (by simp [mem])
    exact ⟨a :: values, rfl⟩

theorem mapM_ok (values : List α) :
    (values.map (.ok : α → Except Interrupt α)).mapM id = .ok values := by
  induction values with
  | nil => rfl
  | cons a rest ih =>
    rw [List.map_cons, List.mapM_cons, ih]
    rfl

/-- The results are the values of all tasks that have finished, unless one was interrupted; then
they are the first interrupt in the order of time. -/
theorem results_cases (ordered : run.Ordered) :
    (∃ values : List α, run.tasks.filterMap TaskState.result? = values.map .ok ∧
      run.results = .ok values) ∨
    ∃ (pre : List TaskId) (t : TaskId) (post : List TaskId) (e : Interrupt), run.order = pre ++
      t :: post ∧ run.tasks[t]? = some (.finished (.error e)) ∧
      (∀ u ∈ pre, ∃ a, run.tasks[u]? = some (.finished (.ok a))) ∧ run.results = .error e := by
  have there : ∀ t ∈ run.order, ∀ result, run.tasks[t]?.bind TaskState.result? = some result →
      run.tasks[t]? = some (.finished result) := fun t mem result e => by
    obtain ⟨result', finished⟩ := (ordered t).1 mem
    rw [finished] at e ⊢
    obtain rfl := Option.some.inj e
    rfl
  rcases look_through (run.order.filterMap fun t => run.tasks[t]?.bind TaskState.result?)
    ((run.tasks.filterMap TaskState.result?).mapM id) with ⟨oks, same⟩ |
      ⟨pre, e, post, split, oks, fails⟩
  · obtain ⟨values, all⟩ : ∃ values : List α, run.tasks.filterMap TaskState.result? =
        values.map .ok := by
      refine exists_values fun result mem => ?_
      obtain ⟨state, mem, finished⟩ := List.mem_filterMap.1 mem
      obtain ⟨t, e⟩ := List.mem_iff_getElem?.1 mem
      cases state with
      | finished result' =>
        refine oks result (List.mem_filterMap.2 ⟨t, (ordered t).2 ⟨_, e⟩, ?_⟩)
        rw [e]
        exact finished
      | unstarted p | waiting r next cancelled => cases finished
    exact .inl ⟨values, all, same.trans (by rw [all, mapM_ok])⟩
  · obtain ⟨before, rest, order, rfl, rest_eq⟩ := List.filterMap_eq_append_iff.1 split
    obtain ⟨skipped, t, after, rfl, nones, here, rfl⟩ := List.filterMap_eq_cons_iff.1 rest_eq
    have none_skipped : skipped = [] := List.eq_nil_iff_forall_not_mem.2 fun u mem => by
      obtain ⟨result, finished⟩ := (ordered u).1 (by simp [order, mem])
      have missing := nones u mem
      rw [finished] at missing
      cases missing
    subst none_skipped
    refine .inr ⟨before, t, after, e, order, there t (by simp [order]) _ here,
      fun u mem => ?_, fails⟩
    obtain ⟨result, finished⟩ := (ordered u).1 (by simp [order, mem])
    obtain ⟨a, rfl⟩ := oks result (List.mem_filterMap.2 ⟨u, mem, by rw [finished]; rfl⟩)
    exact ⟨a, finished⟩

theorem exists_result (finished : run.isFinished = true) (lt : t < run.tasks.length) :
    ∃ result, run.tasks[t]? = some (.finished result) := by
  have done := List.all_eq_true.1 finished _ (List.getElem_mem lt)
  rw [List.getElem?_eq_getElem lt]
  cases e : run.tasks[t] with
  | finished result => exact ⟨result, rfl⟩
  | unstarted p | waiting r next cancelled => simp [e, TaskState.result?] at done

end Run

end RecordAudit
