import RecordAudit.Proofs.Solver.Decision
import RecordAudit.Proofs.Solver.Engine
import RecordAudit.Solver.AssertionStack

/-!
# An assertion stack is a stack

All that shows of an assertion stack are its frames. A check responds to the live assertions alone,
whatever happened before, so that the stack follows a decider. The decider is sound, and it decides
assertions that set every variable equal to a value and elementary ones.
-/

namespace RecordAudit

namespace AssertionStack

variable {s : AssertionStack}

/-- The assertions of the frames, newest first. -/
def view (s : AssertionStack) : List (List (Expr .bool)) :=
  s.frames.map Frame.assertions ++ [s.base.assertions]

theorem live_eq_view (s : AssertionStack) : s.live = s.view.reverse.flatten := by
  simp [live, allFrames, view, List.flatMap_def]

theorem view_modifyNewest (s : AssertionStack) (f : Frame → Frame)
    (g : List (Expr .bool) → List (Expr .bool))
    (h : ∀ frame, (f frame).assertions = g frame.assertions) :
    (s.modifyNewest f).view = s.view.modifyHead g := by
  unfold modifyNewest view
  cases s.frames with
  | nil => simp [h]
  | cons frame rest => simp [h]

theorem view_modifyNewest_self (s : AssertionStack) (f : Frame → Frame)
    (h : ∀ frame, (f frame).assertions = frame.assertions) : (s.modifyNewest f).view = s.view := by
  rw [view_modifyNewest s f id h]
  cases s.view <;> rfl

@[simp] theorem view_inSteps (s : AssertionStack) : s.inSteps.view = s.view := by
  unfold inSteps
  split <;> rfl

@[simp] theorem view_refute (s : AssertionStack) : s.refute.view = s.view :=
  view_modifyNewest_self s _ fun _ => rfl

@[simp] theorem view_settle (s : AssertionStack) : s.settle.view = s.view := by
  have settled : (s.modifyNewest fun f => { f with settled := f.assertions, pending := [] }).view =
      s.view :=
    view_modifyNewest_self s _ fun f => by simp [Frame.assertions]
  unfold settle
  dsimp only
  split
  · rw [view_refute, settled]
  · exact settled

@[simp] theorem view_checked (s : AssertionStack) : s.checked.view = s.view := by
  unfold checked
  split
  · exact view_settle s
  · exact view_settle s

@[simp] theorem view_contradicted (s : AssertionStack) : s.contradicted.view = s.view := by
  unfold contradicted
  split
  · rfl
  · exact view_refute s
  · rfl

theorem view_push (s : AssertionStack) : s.push.view = [] :: s.view := by
  have same : s.inSteps.settle.view = s.view := by simp
  unfold push
  dsimp only
  split
  · rw [← same, ← view_refute s.inSteps.settle]
    rfl
  · rw [← same]
    rfl

theorem view_assert (s : AssertionStack) (e : Expr .bool) :
    (s.assert e).view = s.view.modifyHead (· ++ [e]) := by
  have same : (if s.mode == .unchanged then s.inSteps else s).view = s.view := by
    split
    · exact view_inSteps s
    · rfl
  unfold assert
  dsimp only
  rw [view_modifyNewest _ _ (· ++ [e]) fun f => by simp [Frame.assertions], ← same]
  rfl

/-- The stack does with its frames what it is told. -/
theorem isStack : engine.IsStack view where
  initial := rfl
  assert a s := s.view_assert a
  push := view_push
  pop s f g rest frames := by
    cases opened : s.frames with
    | nil => simp [view, opened] at frames
    | cons frame others =>
      have base : s.inSteps.base = s.base := by
        unfold inSteps
        split <;> rfl
      simp only [view, opened, List.map_cons, List.cons_append, List.cons.injEq] at frames
      simp [engine, pop?, opened, view, base, frames.2]
  pop_base s f frames := by
    cases opened : s.frames with
    | nil => simp [engine, pop?, opened, frames]
    | cons frame others => simp [view, opened] at frames
  reset _ := rfl
  depth s := by simp [view, engine, depth]
  check _ s := by
    change s.check.2.view = s.view
    unfold check
    dsimp only
    split
    · exact s.view_checked
    · exact (view_contradicted _).trans s.view_checked
    · exact s.view_checked

/-! ## Responses -/

/-- What a stack responds to assertions. -/
def decider : Decider := fun _ assertions =>
  match decideAssertions assertions with
  | .satisfied v => ⟨some true, some (entries (variablesOf assertions) v), "incomplete"⟩
  | .unsatisfiable => ⟨some false, none, "incomplete"⟩
  | .undecided => ⟨none, none, "incomplete"⟩

@[simp] theorem mode_modifyNewest (s : AssertionStack) (f : Frame → Frame) :
    (s.modifyNewest f).mode = s.mode := by
  unfold modifyNewest
  split <;> rfl

@[simp] theorem mode_refute (s : AssertionStack) : s.refute.mode = s.mode := mode_modifyNewest s _

@[simp] theorem mode_settle (s : AssertionStack) : s.settle.mode = s.mode := by
  unfold settle
  dsimp only
  split
  · rw [mode_refute, mode_modifyNewest]
  · exact mode_modifyNewest s _

theorem isRefuted_refute (s : AssertionStack) : s.refute.isRefuted = true := by
  have refuted : s.refute.allFrames.any Frame.refuted = true := by
    unfold refute modifyNewest allFrames
    cases s.frames <;> simp
  rw [isRefuted, refuted, Bool.true_or]

/-- A stack that is checked as a whole has no model before the check has ended. -/
theorem last_checked (s : AssertionStack) :
    s.checked.mode = .stepwise ∨ s.checked.last = .nothing := by
  unfold checked
  split
  · next stepwise => exact .inl ((mode_settle s).trans stepwise)
  · exact .inr rfl

theorem model?_contradicted (start : s.mode = .stepwise ∨ s.last = .nothing) :
    s.contradicted.model? = none := by
  unfold contradicted
  split
  · next stepwise refuted earlier => simp [model?, stepwise, refuted, earlier]
  · next stepwise _ =>
    have hidden : (({ s.refute with last := .contradiction } : AssertionStack).mode == .stepwise &&
        ({ s.refute with last := .contradiction } : AssertionStack).isRefuted) = true := by
      rw [Bool.and_eq_true, beq_iff_eq]
      exact ⟨(mode_refute s).trans stepwise, s.isRefuted_refute⟩
    exact if_pos hidden
  · next notStepwise _ =>
    rcases start with stepwise | nothing
    · exact (notStepwise stepwise).elim
    · rw [model?, nothing]

/-- The stack responds to what is live. -/
theorem follows_decider : engine.Follows view decider := by
  intro milliseconds s
  have live : s.checked.live = s.view.reverse.flatten := by rw [live_eq_view, view_checked]
  rw [Engine.respond_eq, ← live]
  unfold decider
  dsimp only [engine]
  unfold check
  dsimp only
  cases decideAssertions s.checked.live with
  | satisfied v => rfl
  | unsatisfiable =>
    dsimp only
    rw [model?_contradicted s.last_checked]
  | undecided => rfl

theorem keeps_fresh (atOnce : Bool) :
    (Surroundings.fresh backend empty atOnce).Keeps decider.judge.replies (view · = [[]]) :=
  isStack.keeps_fresh follows_decider atOnce

/-! ## Decisions -/

theorem mem_entries {vars : List (VariableSort × String)} {v : Valuation} {x : VariableSort}
    {name : String} {value : x.Carrier} : .value x name value ∈ entries vars v ↔
      (x, name) ∈ vars ∧ v x name = value := by
  simp only [entries, List.mem_map, ModelEntry.value.injEq, Prod.exists]
  constructor
  · rintro ⟨s, name', mem, rfl, rfl, same⟩
    exact ⟨mem, eq_of_heq same⟩
  · rintro ⟨mem, rfl⟩
    exact ⟨x, name, mem, rfl, rfl, HEq.rfl⟩

/-- Values that make assertions true are a model of them. -/
theorem isModel_entries {assertions : List (Expr .bool)} {v : Valuation}
    (holds : ∀ e ∈ assertions, e.eval v = true) :
    IsModel (entries (variablesOf assertions) v) assertions where
  occurs s name x mem := mem_variablesOf.1 (mem_entries.1 mem).1
  consistent := ⟨v, fun s name x mem => (mem_entries.1 mem).2⟩
  pinned s name x notText mem := by
    refine mem_entries.2 ⟨mem_variablesOf.2 ⟨_, mem, ?_⟩,
      Expr.pin?_sound (Expr.pin?_equals notText name x) (holds _ mem)⟩
    rw [VariableSort.vars_equals]
    exact List.mem_singleton.2 rfl
  holds e mem _ w agrees _ := by
    rw [← holds e mem]
    refine Expr.eval_congr e fun ⟨s, name⟩ occurs => ?_
    exact agrees s name _ (mem_entries.2 ⟨mem_variablesOf.2 ⟨e, mem, occurs⟩, rfl⟩)

theorem unreportable_decider (milliseconds : Int) (assertions : List (Expr .bool)) :
    (decider milliseconds assertions).unreportable =
      match decideAssertions assertions with
      | .satisfied v => !(variablesOf assertions).all fun x => (x.1.reported (v x.1 x.2)).isOk
      | .unsatisfiable | .undecided => false := by
  unfold decider Response.unreportable
  cases decideAssertions assertions with
  | satisfied v =>
    simp [entries, Response.verdict, ModelEntry.reported, Function.comp_def,
      List.not_all_eq_any_not]
  | unsatisfiable | undecided => rfl

theorem sound_decider : decider.Sound := by
  intro milliseconds assertions
  unfold decider
  constructor
  · intro satisfied
    split at satisfied
    · next v decided => exact ⟨_, rfl, isModel_entries (decideAssertions_sound decided)⟩
    all_goals cases satisfied
  · intro refuted
    split at refuted
    · cases refuted
    · next decided => exact ⟨rfl, decideAssertions_unsatisfiable decided⟩
    · cases refuted

theorem decidesPinned_decider : decider.DecidesPinned := by
  intro milliseconds assertions v pinned _
  have all : ∀ x ∈ variablesOf assertions, (pinsOf assertions x.1 x.2).isSome =
      true := fun x mem => by
    obtain ⟨e, inAssertions, occurs⟩ := mem_variablesOf.1 mem
    obtain ⟨notText, bound⟩ := pinned e inAssertions x occurs
    exact isSome_pinsOf bound (Expr.pin?_equals notText x.2 _)
  unfold decider
  cases decided : decideAssertions assertions with
  | satisfied | unsatisfiable => nofun
  | undecided =>
    by_cases possible : ∃ w : Valuation, ∀ e ∈ assertions, e.eval w = true
    · obtain ⟨w, holds⟩ := possible
      obtain ⟨u, satisfied, -⟩ := decideAssertions_of_holds all holds
      cases decided.symm.trans satisfied
    · have fails : ∀ w : Valuation, ∃ e ∈ assertions, e.eval w = false := fun w => by
        simpa using not_exists.1 possible w
      cases decided.symm.trans (decideAssertions_of_fails all fails)

theorem decidesElementary_decider : decider.DecidesElementary := by
  intro milliseconds assertions elementary
  unfold decider
  rcases decideAssertions_elementary elementary with ⟨v, decided, -⟩ | ⟨decided, -⟩
  · rw [decided]
    refine ⟨nofun, fun shown same => ?_⟩
    obtain rfl := Option.some.inj same
    intro entry mem
    obtain ⟨⟨s, name⟩, occurs, rfl⟩ := List.mem_map.1 mem
    obtain ⟨e, inAssertions, inE⟩ := mem_variablesOf.1 occurs
    exact ⟨s, name, v s name, (elementary e inAssertions).sort_ne_text _ inE, rfl⟩
  · rw [decided]
    exact ⟨nofun, nofun⟩

end AssertionStack

end RecordAudit
