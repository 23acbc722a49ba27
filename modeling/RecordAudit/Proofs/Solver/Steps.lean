import RecordAudit.Proofs.Solver.Stack

/-!
# Steps on a solver

What is live on an engine after any steps is told by the steps alone, and checks of elementary
assertions answer whether the live ones can all be true.
-/

namespace RecordAudit

/-- What can be done with a solver. -/
inductive SolverStep where
  | call (c : Call)
  /-- Drops everything. -/
  | reset

namespace SolverStep

variable {σ : Type} {engine : Engine σ} {frames : σ → List (List (Expr .bool))} {s : σ}
  {steps : List SolverStep} {step : SolverStep} {e : Expr .bool} {i : Nat}

abbrev Reply : SolverStep → Type
  | .call c => c.Reply
  | .reset => Unit

/-- How an engine responds to a step. -/
def respond (engine : Engine σ) : (step : SolverStep) → σ → Except Fault step.Reply × σ
  | .call c, s => engine.backend.respond c s
  | .reset, s => (.ok (), engine.reset s)

/-- The state of an engine after steps from the start. -/
def stateAfter (engine : Engine σ) (steps : List SolverStep) : σ :=
  steps.foldl (fun s step => (step.respond engine s).2) engine.initial

/-- The number of open frames after one more step. Without an open frame, nothing is popped. -/
def depthFrom (depth : Nat) : SolverStep → Nat
  | .call .push => depth + 1
  | .call .pop => depth - 1
  | .call _ => depth
  | .reset => 0

/-- The number of open frames after steps. -/
def depthAfter (steps : List SolverStep) : Nat := steps.foldl depthFrom 0

/-- One of the steps adds an assertion at a depth, and since then nothing was reset and that depth
was not left. -/
def LiveAt (steps : List SolverStep) (depth : Nat) (e : Expr .bool) : Prop :=
  ∃ before operand after, steps = before ++ .call (.add operand) :: after ∧ e ∈ assertedBy operand ∧
    depthAfter before = depth ∧ .reset ∉ after ∧
      ∀ part, part <+: after → depth ≤ depthAfter (before ++ .call (.add operand) :: part)

/-- An assertion was added since the last reset, and the frame it was added in has not been
popped. -/
def Live (steps : List SolverStep) (e : Expr .bool) : Prop := ∃ depth, LiveAt steps depth e

/-! ## Depths -/

@[simp] theorem depthAfter_nil : depthAfter [] = 0 := rfl

@[simp] theorem depthAfter_concat (steps : List SolverStep) (step : SolverStep) :
    depthAfter (steps ++ [step]) = depthFrom (depthAfter steps) step := by
  simp [depthAfter]

@[simp] theorem stateAfter_concat (engine : Engine σ) (steps : List SolverStep)
    (step : SolverStep) :
    stateAfter engine (steps ++ [step]) = (step.respond engine (stateAfter engine steps)).2 := by
  simp [stateAfter]

theorem LiveAt.le_depth (live : LiveAt steps i e) : i ≤ depthAfter steps := by
  obtain ⟨before, operand, after, rfl, -, -, -, deep⟩ := live
  exact deep after (List.prefix_refl after)

theorem not_liveAt_nil : ¬LiveAt [] i e := by
  rintro ⟨before, operand, after, same, -⟩
  cases before <;> cases same

/-- What one more step leaves live, and what it adds. -/
theorem liveAt_concat_iff : LiveAt (steps ++ [step]) i e ↔
    (LiveAt steps i e ∧ step ≠ .reset ∧ i ≤ depthAfter (steps ++ [step])) ∨
      ∃ operand, step = .call (.add operand) ∧ e ∈ assertedBy operand ∧ i = depthAfter steps := by
  constructor
  · intro live
    have below := live.le_depth
    obtain ⟨before, operand, after, same, asserts, rfl, kept, deep⟩ := live
    rcases List.eq_nil_or_concat' after with rfl | ⟨after, last, rfl⟩
    · obtain ⟨rfl, single⟩ := List.append_inj' same rfl
      exact .inr ⟨operand, (List.cons.inj single).1, asserts, rfl⟩
    · rw [← List.cons_append, ← List.append_assoc] at same
      obtain ⟨rfl, single⟩ := List.append_inj' same rfl
      obtain rfl := (List.cons.inj single).1
      rw [List.mem_append, not_or, List.mem_singleton] at kept
      refine .inl ⟨⟨before, operand, after, rfl, asserts, rfl, kept.1, fun part isPrefix => ?_⟩,
        Ne.symm kept.2, below⟩
      exact deep part (isPrefix.trans (List.prefix_append after _))
  · rintro (⟨⟨before, operand, after, rfl, asserts, rfl, kept, deep⟩, keeps, below⟩ |
      ⟨operand, rfl, asserts, rfl⟩)
    · refine ⟨before, operand, after ++ [step], by simp, asserts, rfl, ?_, fun part isPrefix => ?_⟩
      · rw [List.mem_append, not_or, List.mem_singleton]
        exact ⟨kept, Ne.symm keeps⟩
      · rcases List.prefix_concat_iff.1 isPrefix with rfl | isPrefix
        · simpa using below
        · exact deep part isPrefix
    · refine ⟨steps, operand, [], rfl, asserts, rfl, by simp, fun part isPrefix => ?_⟩
      rw [List.prefix_nil.1 isPrefix, depthAfter_concat]
      exact Nat.le_refl _

/-! ## Frames -/

/-- Something is in the frame at a depth, where the newest frame comes first. -/
def At {α : Type} : List (List α) → Nat → α → Prop
  | [], _, _ => False
  | f :: rest, i, x => (i = rest.length ∧ x ∈ f) ∨ At rest i x

theorem At.lt_length {α : Type} {fs : List (List α)} {x : α} (h : At fs i x) : i < fs.length := by
  induction fs with
  | nil => exact h.elim
  | cons f rest ih =>
    rcases h with ⟨rfl, -⟩ | h
    · simp
    · exact Nat.lt_succ_of_lt (ih h)

theorem mem_flatten_iff_exists_at {α : Type} {fs : List (List α)} {x : α} :
    x ∈ fs.flatten ↔ ∃ i, At fs i x := by
  induction fs with
  | nil => simp [At]
  | cons f rest ih => simp [At, exists_or, ih]

theorem at_modifyHead_append {α : Type} {f new : List α} {rest : List (List α)} {x : α} :
    At ((f :: rest).modifyHead (· ++ new)) i x ↔
      At (f :: rest) i x ∨ (x ∈ new ∧ i = rest.length) := by
  simp only [List.modifyHead_cons, At, List.mem_append]
  tauto

/-- The frames of assertions after one more step, newest first; the last is what is in no frame. -/
def framesFrom (fs : List (List (Expr .bool))) : SolverStep → List (List (Expr .bool))
  | .call .push => [] :: fs
  | .call .pop => if fs.length ≤ 1 then fs else fs.tail
  | .call (.add operand) => fs.modifyHead (· ++ assertedBy operand)
  | .call (.check _) => fs
  | .reset => [[]]

/-- What one more step leaves in the frames, and what it adds. -/
theorem at_framesFrom_iff {f : List (Expr .bool)} {rest : List (List (Expr .bool))} :
    At (framesFrom (f :: rest) step) i e ↔
      (At (f :: rest) i e ∧ step ≠ .reset ∧ i ≤ depthFrom rest.length step) ∨
        ∃ operand, step = .call (.add operand) ∧ e ∈ assertedBy operand ∧ i = rest.length := by
  have within : At (f :: rest) i e → i ≤ rest.length :=
    fun inFrame => Nat.le_of_lt_succ inFrame.lt_length
  cases step with
  | reset => simp [framesFrom, At]
  | call c =>
    cases c with
    | push =>
      have deeper : At (f :: rest) i e → i ≤ rest.length + 1 :=
        fun inFrame => Nat.le_succ_of_le (within inFrame)
      have opened : At ([] :: f :: rest) i e ↔ At (f :: rest) i e := by simp [At]
      simpa [framesFrom, depthFrom, opened] using deeper
    | pop =>
      cases rest with
      | nil => simpa [framesFrom, depthFrom] using within
      | cons g rest =>
        have left : At (g :: rest) i e → i ≤ rest.length :=
          fun inFrame => Nat.le_of_lt_succ inFrame.lt_length
        have dropped : At (f :: g :: rest) i e ↔
          (i = rest.length + 1 ∧ e ∈ f) ∨ At (g :: rest) i e := Iff.rfl
        have lower : (At (f :: g :: rest) i e ∧ i ≤ rest.length) ↔ At (g :: rest) i e := by
          rw [dropped]
          constructor
          · rintro ⟨⟨rfl, -⟩ | inFrame, small⟩
            · omega
            · exact inFrame
          · exact fun inFrame => ⟨.inr inFrame, left inFrame⟩
        simpa [framesFrom, depthFrom] using lower.symm
    | add operand =>
      rw [framesFrom, at_modifyHead_append]
      simp [depthFrom, and_iff_left_of_imp within]
    | check τ => simpa [framesFrom, depthFrom] using within

section IsStack

variable (stack : engine.IsStack frames)
include stack

theorem frames_respond (step : SolverStep) (s : σ) :
    frames (step.respond engine s).2 = framesFrom (frames s) step := by
  cases step with
  | reset => exact stack.reset s
  | call c =>
    cases c with
    | push => exact stack.push s
    | pop =>
      obtain ⟨f, rest, there⟩ := stack.exists_frame s
      cases rest with
      | nil => exact (stack.pop_base s f there).2.trans (by simp [framesFrom, there])
      | cons g rest => exact (stack.pop s f g rest there).2.trans (by simp [framesFrom, there])
    | add operand => exact (stack.frames_addAll operand.items s).2
    | check timeout => exact stack.check _ s

theorem depth_respond (step : SolverStep) (s : σ) :
    engine.depth (step.respond engine s).2 = depthFrom (engine.depth s) step := by
  have length := congrArg List.length (frames_respond stack step s)
  have before := stack.depth s
  rw [stack.depth] at length
  cases step with
  | reset => simpa [framesFrom, depthFrom] using length
  | call c =>
    cases c with
    | push | add | check => simpa [framesFrom, depthFrom, before] using length
    | pop =>
      change _ = engine.depth s - 1
      rw [framesFrom] at length
      split at length
      · omega
      · rw [List.length_tail] at length
        omega

theorem depth_stateAfter (steps : List SolverStep) :
    engine.depth (stateAfter engine steps) = depthAfter steps := by
  induction steps using List.reverseRecOn with
  | nil =>
    have length := stack.depth engine.initial
    rw [stack.initial] at length
    exact (Nat.succ.inj length).symm
  | append_singleton steps step ih =>
    rw [stateAfter_concat, depth_respond stack, ih, depthAfter_concat]

theorem at_frames_iff (steps : List SolverStep) : At (frames (stateAfter engine steps)) i e ↔
    LiveAt steps i e := by
  induction steps using List.reverseRecOn with
  | nil =>
    have start : frames (stateAfter engine []) = [[]] := stack.initial
    simp [start, At, not_liveAt_nil]
  | append_singleton steps step ih =>
    have length := stack.depth (stateAfter engine steps)
    rw [depth_stateAfter stack] at length
    rw [stateAfter_concat, frames_respond stack, liveAt_concat_iff, depthAfter_concat, ← ih]
    cases there : frames (stateAfter engine steps) with
    | nil => simp [there] at length
    | cons f rest =>
      rw [there, List.length_cons, Nat.add_right_cancel_iff] at length
      rw [at_framesFrom_iff, length]

/-- The assertions that the frames hold are those that are live. -/
theorem mem_live_iff (steps : List SolverStep) :
    e ∈ (frames (stateAfter engine steps)).reverse.flatten ↔ Live steps e := by
  rw [Live, ← exists_congr fun i => at_frames_iff stack steps, ← mem_flatten_iff_exists_at]
  simp

end IsStack

/-! ## Refused steps -/

/-- The step adds no list of assertions. -/
def IsSingle : SolverStep → Prop
  | .call (.add operand) => ∀ items, operand ≠ .value (.list items)
  | _ => True

section IsStack

variable (stack : engine.IsStack frames)
include stack

/-- An operand that is refused asserts nothing, unless it is a list, of which the items before the
refused one are asserted. -/
theorem assertedBy_of_refused {operand : Operand} {fault : Fault}
    (single : ∀ items, operand ≠ .value (.list items))
    (refused : (engine.backend.respond (.add operand) s).1 = .error fault) :
    assertedBy operand = [] := by
  have items : operand.items = [operand] := by
    unfold Operand.items
    split
    · exact absurd rfl (single _)
    · rfl
  have reply : (engine.backend.respond (.add operand) s).1 = operand.items.forM fun o =>
    o.toBool.map fun _ => () :=
    (stack.frames_addAll operand.items s).1
  rw [reply, items] at refused
  rw [assertedBy, items, assertedBy.go]
  cases taken : operand.toBool with
  | ok e =>
    have accepted : [operand].forM (fun o => o.toBool.map fun _ => ()) = .ok () := by
      change ((operand.toBool.map fun _ => ()) >>= fun _ => pure ()) = _
      rw [taken]
      rfl
    rw [accepted] at refused
    cases refused
  | error fault => rfl

theorem refused_unchanged {fault : Fault} (single : step.IsSingle)
    (refused : (step.respond engine s).1 = .error fault) :
    frames (step.respond engine s).2 = frames s := by
  rw [frames_respond stack]
  cases step with
  | reset => cases refused
  | call c =>
    cases c with
    | push => cases refused
    | pop =>
      obtain ⟨f, rest, there⟩ := stack.exists_frame s
      cases rest with
      | nil => simp [framesFrom, there]
      | cons g rest => cases ((stack.pop s f g rest there).1).symm.trans refused
    | add operand =>
      have nothing : assertedBy operand = [] := assertedBy_of_refused stack single refused
      rw [framesFrom, nothing]
      exact modifyHead_append_nil (frames s)
    | check timeout => rfl

end IsStack

/-! ## Answers -/

theorem Live.added {steps : List SolverStep} {e : Expr .bool} (live : Live steps e) :
    ∃ operand, .call (.add operand) ∈ steps ∧ e ∈ assertedBy operand := by
  obtain ⟨_, before, operand, after, rfl, asserts, -⟩ := live
  exact ⟨operand, by simp, asserts⟩

/-- Steps that add elementary assertions to an engine keep a correct stack, if the engine's commands
do to its frames what they say, and it responds soundly and decides such assertions. What is live
and how deep the stack is can be told from the steps; answers say whether the live assertions can
all be true, and models give values to their variables only; a check fails only by a value that
cannot be reported. A step that is refused changes nothing, unless it adds a list of assertions,
whose items are added one by one up to the refused one. -/
theorem solver_decides_live {σ : Type} {engine : Engine σ} {frames : σ → List (List (Expr .bool))}
    (stack : engine.IsStack frames)
    (sound : ∀ milliseconds s, (engine.respond milliseconds s).1.Sound (frames s).reverse.flatten)
    (decides : ∀ milliseconds s, (engine.respond milliseconds s).1.DecidesElementary
    (frames s).reverse.flatten) (steps : List SolverStep)
    (elementary : ∀ operand, .call (.add operand) ∈ steps →
      ∀ e ∈ assertedBy operand, e.Elementary) :
    (∀ e, e ∈ (frames (stateAfter engine steps)).reverse.flatten ↔ Live steps e) ∧
      engine.depth (stateAfter engine steps) = depthAfter steps ∧
      (∀ timeout answer, (respond engine (.call (.check timeout)) (stateAfter engine steps)).1 =
        .ok answer → (answer.verdict = .satisfiable ↔
          ∃ v : Valuation, ∀ e, Live steps e → e.eval v = true) ∧
        (answer.verdict = .unsatisfiable ↔ ¬∃ v : Valuation, ∀ e, Live steps e → e.eval v = true) ∧
        ∀ model, answer.model = some model →
          ∃ v : Valuation, (∀ e, Live steps e → e.eval v = true) ∧
            ∀ name value, model.get? name = some value →
              ∃ e s, Live steps e ∧ (s, name) ∈ e.vars ∧ s.reported (v s name) = .ok value) ∧
      (∀ timeout fault, (respond engine (.call (.check timeout)) (stateAfter engine steps)).1 =
        .error fault → ∃ v : Valuation, (∀ e, Live steps e → e.eval v = true) ∧
          ∃ e s name, Live steps e ∧ (s, name) ∈ e.vars ∧
          ∀ value, s.reported (v s name) ≠ .ok value) ∧
      ∀ (step : SolverStep) fault, step.IsSingle →
        (step.respond engine (stateAfter engine steps)).1 = .error fault →
        frames (step.respond engine (stateAfter engine steps)).2 =
          frames (stateAfter engine steps) ∧
            engine.depth (step.respond engine (stateAfter engine steps)).2 =
              engine.depth (stateAfter engine steps) := by
  have mem_live : ∀ e, e ∈ (frames (stateAfter engine steps)).reverse.flatten ↔
      Live steps e := fun e =>
    mem_live_iff stack steps
  have elementaryLive : ∀ e ∈ (frames (stateAfter engine steps)).reverse.flatten,
      e.Elementary := fun e mem => by
    obtain ⟨operand, isStep, asserts⟩ := ((mem_live e).1 mem).added
    exact elementary operand isStep e asserts
  simp only [← mem_live]
  refine ⟨fun _ => trivial, depth_stateAfter stack steps, fun timeout answer returned => ?_,
    fun timeout fault refused => ?_, fun step fault single refused => ?_⟩
  · have answered : (engine.respond timeout.milliseconds (stateAfter engine steps)).1.answer =
      .ok answer := returned
    rcases (sound _ _).answer_elementary (decides _ _) elementaryLive answered with
      ⟨sat, v, model, holds, shown, reported⟩ | ⟨unsat, hidden, fails⟩
    · refine ⟨iff_of_true sat ⟨v, holds⟩, iff_of_false (by simp [sat]) (not_not.2 ⟨v, holds⟩),
        fun other same => ?_⟩
      obtain rfl := Option.some.inj (shown.symm.trans same)
      refine ⟨v, holds, fun name value there => ?_⟩
      obtain ⟨s, ⟨e, inLive, inE⟩, report⟩ := reported name value there
      exact ⟨e, s, inLive, inE, report⟩
    · have none : ¬∃ v : Valuation, ∀ e ∈ (frames (stateAfter engine steps)).reverse.flatten,
          e.eval v = true := by
        rintro ⟨v, holds⟩
        obtain ⟨e, mem, isFalse⟩ := fails v
        rw [holds e mem] at isFalse
        cases isFalse
      exact ⟨iff_of_false (by simp [unsat]) none, iff_of_true unsat none, by simp [hidden]⟩
  · have failed : (engine.respond timeout.milliseconds (stateAfter engine steps)).1.answer =
      .error fault := refused
    obtain ⟨v, holds, e, inLive, s, name, inE, unreported⟩ :=
      (sound _ _).error_elementary (decides _ _) elementaryLive failed
    exact ⟨v, holds, e, s, name, inLive, inE, unreported⟩
  · have kept := refused_unchanged stack single refused
    have length := congrArg List.length kept
    rw [stack.depth, stack.depth, Nat.add_right_cancel_iff] at length
    exact ⟨kept, length⟩

/-- A variable above zero, and in a frame the same variable below zero. -/
def opposed : List SolverStep :=
  [.call (.add (.expr .bool (.compare .gt (.var .int "x") (.const (s := .int) 0)))), .call .push,
    .call (.add (.expr .bool (.compare .lt (.var .int "x") (.const (s := .int) 0))))]

/-- Within the frame, nothing makes both assertions true. -/
theorem solver_decides_live_opposed :
    ∃ answer, (respond AssertionStack.engine (.call (.check none))
        (stateAfter AssertionStack.engine opposed)).1 = .ok answer ∧
      answer.verdict = .unsatisfiable := by
  have elementary : ∀ operand, .call (.add operand) ∈ opposed →
      ∀ e ∈ assertedBy operand, e.Elementary := by
    intro operand isStep e asserts
    have isComparison : ∃ c, e = .compare c (.var .int "x") (.const (s := .int) 0) := by
      simp only [opposed, List.mem_cons, List.not_mem_nil, or_false, call.injEq, Call.add.injEq,
        reduceCtorEq, false_or] at isStep
      rcases isStep with rfl | rfl
      · exact ⟨.gt, List.mem_singleton.1 asserts⟩
      · exact ⟨.lt, List.mem_singleton.1 asserts⟩
    obtain ⟨c, rfl⟩ := isComparison
    exact .compare c .var (.literal (.const _))
  have above : Live opposed (.compare .gt (.var .int "x") (.const (s := .int) 0)) :=
    ⟨0, [], _, _, rfl, List.mem_singleton.2 rfl, rfl, by simp, fun _ _ => Nat.zero_le _⟩
  have below : Live opposed (.compare .lt (.var .int "x") (.const (s := .int) 0)) := by
    refine ⟨1, opposed.take 2, _, [], rfl, List.mem_singleton.2 rfl,
      rfl, by simp, fun part isPrefix => ?_⟩
    rw [List.prefix_nil.1 isPrefix]
    exact Nat.le_refl 1
  have contradictory : ¬∃ v : Valuation, ∀ e, Live opposed e → e.eval v = true := by
    rintro ⟨v, holds⟩
    have isAbove : Numeric.compare .int .gt (v .int "x") (0 : Int) = true := holds _ above
    have isBelow : Numeric.compare .int .lt (v .int "x") (0 : Int) = true := holds _ below
    simp only [Numeric.compare, Comparison.allows, beq_iff_eq] at isAbove isBelow
    rw [isAbove] at isBelow
    cases isBelow
  have follows := AssertionStack.follows_decider
  obtain ⟨-, -, returned, refused, -⟩ := solver_decides_live AssertionStack.isStack
    (fun milliseconds s => follows milliseconds s ▸ AssertionStack.sound_decider milliseconds _)
    (fun milliseconds s => follows milliseconds s ▸ AssertionStack.decidesElementary_decider
      milliseconds _)
    opposed elementary
  cases reply : (respond AssertionStack.engine (.call (.check none))
      (stateAfter AssertionStack.engine opposed)).1 with
  | ok answer => exact ⟨answer, rfl, (returned _ answer reply).2.1.2 contradictory⟩
  | error fault =>
    obtain ⟨v, holds, -⟩ := refused _ fault reply
    exact absurd ⟨v, holds⟩ contradictory

end SolverStep

end RecordAudit
