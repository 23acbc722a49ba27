import RecordAudit.Proofs.Check.Dialogue
import RecordAudit.Proofs.Check.Isolation

/-!
# The trace of a check is balanced

Whatever a backend answers, and whatever fails on the way, the calls of a whole check are one block
for each constraint. So no frame is dropped that was not opened, and between constraints none is
open.
-/

namespace RecordAudit

open TaskM

variable {σ : Type} {b : Backend σ} {m : Surroundings σ} {t : TaskId} {s : SessionId} {state : σ}
  {cs : List Constraint} {values : FieldValues} {τ : Timeout} {witnessed : Bool} {calls : List Call}
  {blocks : List (List Call)} {findings : List ConstraintFinding}

/-! ## Pushes and pops -/

def pushesIn (calls : List Call) : Nat := calls.countP fun c => c matches .push

def popsIn (calls : List Call) : Nat := calls.countP fun c => c matches .pop

@[simp] theorem pushesIn_append (a b : List Call) : pushesIn (a ++ b) = pushesIn a + pushesIn b :=
  List.countP_append

@[simp] theorem popsIn_append (a b : List Call) : popsIn (a ++ b) = popsIn a + popsIn b :=
  List.countP_append

theorem pushesIn_cons (c : Call) (calls : List Call) :
    pushesIn (c :: calls) = pushesIn calls + if c matches .push then 1 else 0 := List.countP_cons

theorem popsIn_cons (c : Call) (calls : List Call) :
    popsIn (c :: calls) = popsIn calls + if c matches .pop then 1 else 0 := List.countP_cons

theorem Balanced.pops_eq (balanced : Balanced calls) : popsIn calls = pushesIn calls := by
  induction balanced with
  | nil => rfl
  | add a _ ih => simpa [pushesIn_cons, popsIn_cons] using ih
  | check τ _ ih => simpa [pushesIn_cons, popsIn_cons] using ih
  | frame _ _ ihBody ihRest =>
    simp only [pushesIn_cons, popsIn_cons, pushesIn_append, popsIn_append, ihBody, ihRest]
    simp
    omega

/-- At no time have balanced calls dropped more frames than they have opened. -/
theorem Balanced.pops_le (balanced : Balanced calls) {part : List Call}
    (isPrefix : part <+: calls) :
    popsIn part ≤ pushesIn part := by
  induction balanced generalizing part with
  | nil => rw [List.prefix_nil.1 isPrefix]; exact Nat.le_refl _
  | add a _ ih | check τ _ ih =>
    rcases List.prefix_cons_iff.1 isPrefix with rfl | ⟨more, rfl, inner⟩
    · exact Nat.le_refl _
    · simpa [pushesIn_cons, popsIn_cons] using ih inner
  | @frame body rest hBody _ ihBody ihRest =>
    rcases List.prefix_cons_iff.1 isPrefix with rfl | ⟨more, rfl, after, cut⟩
    · exact Nat.le_refl _
    · rcases List.append_eq_append_iff.1 cut with ⟨left, rfl, -⟩ | ⟨beyond, rfl, rest_eq⟩
      · -- within the frame
        have inBody := ihBody (List.prefix_append more left)
        simp only [pushesIn_cons, popsIn_cons]
        simp
        omega
      · rcases beyond with _ | ⟨c, beyond⟩
        · simp [pushesIn_cons, popsIn_cons, hBody.pops_eq]
        · -- the frame has been dropped
          obtain ⟨rfl, tail_eq⟩ := List.cons.inj rest_eq
          have inRest := ihRest ⟨after, tail_eq.symm⟩
          simp only [pushesIn_cons, popsIn_cons, pushesIn_append, popsIn_append, hBody.pops_eq]
          simp
          omega

theorem IsBlock.balanced (isBlock : IsBlock calls) : Balanced calls := by
  obtain ⟨body, balanced, rfl⟩ := isBlock
  exact .frame balanced .nil

theorem balanced_flatten (areBlocks : ∀ calls ∈ blocks, IsBlock calls) :
    Balanced blocks.flatten := by
  induction blocks with
  | nil => exact .nil
  | cons calls rest ih =>
    exact (areBlocks calls (by simp)).balanced.append (ih fun calls mem =>
      areBlocks calls (by simp [mem]))

theorem Backend.Steady.after_block (steady : b.Steady state) (isBlock : IsBlock calls) :
    b.Steady (b.after calls state) where
  push more := by
    rw [← Backend.after_append]
    exact steady.push _
  pop more deep := by
    have areBlocks : ∀ block ∈ [calls], IsBlock block :=
      fun block mem => List.mem_singleton.1 mem ▸ isBlock
    have same := depthAfter_blocks areBlocks more
    rw [List.flatten_singleton] at same
    rw [← Backend.after_append]
    exact steady.pop _ (same ▸ deep)

/-! ## All constraints -/

namespace Constraint

/-- The dialogues on constraints, one after the other, with the findings that they come to. -/
inductive Dialogues (b : Backend σ) (witnessed : Bool) (τ : Timeout) (values : FieldValues) :
    σ → List Constraint → List (List Call) → List ConstraintFinding → Prop
  | nil {state : σ} : Dialogues b witnessed τ values state [] [] []
  | cons {state : σ} {c : Constraint} {calls : List Call}
      {result : Except Fault (Answer × Option Model)} {cs : List Constraint}
      {blocks : List (List Call)} {findings : List ConstraintFinding} :
    c.Dialogue b witnessed τ values state calls result →
    Dialogues b witnessed τ values (b.after calls state) cs blocks findings →
    Dialogues b witnessed τ values state (c :: cs) (calls :: blocks)
      (c.findingOf values result :: findings)

theorem mapM_tells (steady : m.backend.Steady state) (cs : List Constraint) (witnessed : Bool)
    (values : FieldValues) (τ : Timeout) :
    ∃ blocks findings, Dialogues m.backend witnessed τ values state cs blocks findings ∧
      (cs.mapM fun (c : Constraint) => c.check s witnessed τ values).Tells m t s .free .free state
        blocks.flatten (.ok findings) := by
  induction cs generalizing state with
  | nil => exact ⟨[], [], .nil, .done⟩
  | cons c rest ih =>
    obtain ⟨calls, result, dialogue, told⟩ :=
      check_tells (t := t) (s := s) steady c witnessed values τ
    obtain ⟨blocks, findings, dialogues, toldRest⟩ := ih (steady.after_block dialogue.isBlock)
    refine ⟨calls :: blocks, _, .cons dialogue dialogues, ?_⟩
    rw [List.mapM_cons]
    exact told.bind (toldRest.map fun findings => c.findingOf values result :: findings)

theorem Dialogues.get (dialogues : Dialogues b witnessed τ values state cs blocks findings)
    {i : Nat} {c : Constraint} (there : cs[i]? = some c) :
    ∃ calls result, blocks[i]? = some calls ∧ findings[i]? = some (c.findingOf values result) ∧
      c.Dialogue b witnessed τ values (b.after (blocks.take i).flatten state) calls result := by
  induction dialogues generalizing i with
  | nil => simp at there
  | @cons state c' calls result cs blocks findings dialogue _ ih =>
    cases i with
    | zero =>
      obtain rfl := Option.some.inj there
      exact ⟨calls, result, rfl, rfl, dialogue⟩
    | succ i =>
      obtain ⟨calls', result', block, finding, dialogue'⟩ := ih there
      refine ⟨calls', result', block, finding, ?_⟩
      rwa [List.take_succ_cons, List.flatten_cons, Backend.after_append]

theorem Dialogues.lengths (dialogues : Dialogues b witnessed τ values state cs blocks findings) :
    blocks.length = cs.length ∧ findings.length = cs.length ∧ ∀ calls ∈ blocks, IsBlock calls := by
  induction dialogues with
  | nil => simp
  | cons dialogue _ ih =>
    obtain ⟨blocks, findings, areBlocks⟩ := ih
    exact ⟨by simp [blocks], by simp [findings],
      List.forall_mem_cons.2 ⟨dialogue.isBlock, areBlocks⟩⟩

/-- The calls for a constraint that come after some others: one block, with at most two checks. -/
structure OrderlyBlock (b : Backend σ) (witnessed : Bool) (τ : Timeout) (values : FieldValues)
    (state : σ) (earlier : List Call) (c : Constraint) (calls : List Call)
    (result : Except Fault (Answer × Option Model)) :
    Prop where
  dialogue : c.Dialogue b witnessed τ values (b.after earlier state) calls result
  isBlock : IsBlock calls
  timeout_eq : ∀ τ', .check τ' ∈ calls → τ' = τ
  checks_le : checksIn calls ≤ 2
  /-- There is a second check when the first came to a contradiction and a witness is asked for, and
  not otherwise. -/
  second_check_iff : checksIn calls = 2 ↔ witnessed = true ∧ ∃ before after answer,
    calls = before ++ .check τ :: after ∧ checksIn before = 0 ∧
      (b.respond (.check τ) (b.after (earlier ++ before) state)).1 = .ok answer ∧
      answer.verdict = .unsatisfiable
  /-- The second check sees the constraint's own assertions and nothing else. -/
  live_at_second_check : ∀ before after, calls = before ++ .check τ :: after → checksIn before = 1 →
    c.assertions = .ok (liveAfter (earlier ++ before))

/-- The calls of a check, and what it finds: one orderly block for each constraint. -/
structure BalancedTrace (b : Backend σ) (witnessed : Bool) (τ : Timeout) (values : FieldValues)
    (state : σ) (cs : List Constraint) (blocks : List (List Call))
    (findings : List ConstraintFinding) : Prop where
  blocks_length : blocks.length = cs.length
  findings_length : findings.length = cs.length
  orderly : ∀ (i : Nat) c, cs[i]? = some c → ∃ calls result, blocks[i]? = some calls ∧
    findings[i]? = some (c.findingOf values result) ∧
    c.OrderlyBlock b witnessed τ values state (blocks.take i).flatten calls result
  /-- At no time have more frames been dropped than opened. -/
  pops_le : ∀ part, part <+: blocks.flatten → popsIn part ≤ pushesIn part
  /-- Between blocks no frame is open. -/
  pops_eq : ∀ i, popsIn (blocks.take i).flatten = pushesIn (blocks.take i).flatten

theorem Dialogues.balancedTrace
    (dialogues : Dialogues b witnessed τ values state cs blocks findings) :
    BalancedTrace b witnessed τ values state cs blocks findings := by
  obtain ⟨sameBlocks, sameFindings, areBlocks⟩ := dialogues.lengths
  have before : ∀ i, ∀ calls ∈ blocks.take i, IsBlock calls := fun i calls mem =>
    areBlocks calls (List.mem_of_mem_take mem)
  refine ⟨sameBlocks, sameFindings, fun i c there => ?_,
    fun part isPrefix => (balanced_flatten areBlocks).pops_le isPrefix,
    fun i => (balanced_flatten (before i)).pops_eq⟩
  obtain ⟨calls, result, block, finding, dialogue⟩ := dialogues.get there
  obtain ⟨most, second⟩ := dialogue.second_check_iff
  refine ⟨calls, result, block, finding, dialogue, dialogue.isBlock, fun τ' => dialogue.timeout_eq,
    most, ?_, fun first rest cut once => ?_⟩
  · simpa only [Backend.after_append] using second
  · rw [liveAfter_blocks (before i)]
    exact dialogue.live_at_second_check cut once

end Constraint

/-! ## A whole check -/

/-- A task alone has got the shared session, in some state and after some checks, and has made calls
in it. -/
structure World.UsedAlone (w w' : World σ) (m : Surroundings σ) (t : TaskId) (s : SessionId)
    (state : σ) (checks : Nat) (calls : List Call) : Prop where
  /-- The session was there, or it is new and had no checks. -/
  origin : (w.shared = some s ∧ w.Serves s .free state checks) ∨
    (w.shared = none ∧ w.sessions.length ≤ s ∧ checks = 0)
  shared : w'.shared = some s
  serves : w'.Serves s .free (m.backend.after calls state) (checks + checksIn calls)
  own : w'.callsOn s = w.callsOn s ++ madeBy t calls
  others : ∀ s' ≠ s, w'.callsOn s' = w.callsOn s'

/-- A record without raw texts is not checked: no session is asked for, and no call is made. -/
theorem World.checkAlone_of_error {fault : Fault} {r : Record}
    (failed : r.fieldValues = .error fault) (m : Surroundings σ) (t : TaskId)
    (settings : SolverSettings) (timeout : Timeout) (cs : List Constraint) (specs : List FieldSpec)
    (w : World σ) :
    w.checkAlone m t settings timeout r cs specs = (some (.error (.fault fault)), w) := by
  unfold checkAlone checkRecord
  rw [failed]
  rfl

/-- A task alone gets the session and leads the dialogues on all constraints in it. -/
theorem World.checkAlone_dialogues {w : World σ} (creates : m.Creates m.backend.Steady)
    (rest : w.AtRest m.backend.Steady) (t : TaskId) (settings : SolverSettings) (timeout : Timeout)
    {r : Record} (flat : r.fieldValues = .ok values) (cs : List Constraint)
    (specs : List FieldSpec) :
    ∃ s state checks blocks findings w',
      w.checkAlone m t settings timeout r cs specs = (some (.ok findings), w') ∧
      w.UsedAlone w' m t s state checks blocks.flatten ∧
      Constraint.Dialogues m.backend settings.witnessOnViolation
        (some (timeout.getD settings.timeout)) values state (cs ++ compileFieldRules specs) blocks
          findings := by
  obtain ⟨s, state, checks, got, ran, serves, steady, shared, same, origin⟩ :=
    World.runAlone_get (t := t) creates rest
  obtain ⟨blocks, findings, dialogues, told⟩ :=
    Constraint.mapM_tells (m := m) (t := t) (s := s) steady (cs ++ compileFieldRules specs)
      settings.witnessOnViolation values (some (timeout.getD settings.timeout))
  obtain ⟨w', ran', serves', told'⟩ := told got checks serves
  refine ⟨s, state, checks, blocks, findings, w', ?_,
    ⟨origin, told'.shared.trans shared, serves', ?_, ?_⟩, dialogues⟩
  · have whole : checkRecord settings r cs specs timeout = (do
        let s ← Session.get
        List.mapM (fun c => c.check s settings.witnessOnViolation
          (some (timeout.getD settings.timeout)) values) (cs ++ compileFieldRules specs)) := by
      rw [checkRecord, flat]
      rfl
    rw [World.checkAlone, whole, World.runAlone_bind_ok ran]
    exact ran'
  · rw [told'.own, same]
  · exact fun s' other => (told'.others s' other).trans (same s')

/-- Whatever the backend answers, and whatever fails, the calls of a check are one block for each
constraint, in order. A block ends early only with a failure, and then with the pops that are
missing. All checks have the timeout that is asked for, or that of the settings, and each of them is
counted. Only a record without raw texts makes no calls, and leaves everything as it was. -/
theorem check_trace_balanced (creates : m.Creates m.backend.Steady) {w : World σ}
    (rest : w.AtRest m.backend.Steady) (t : TaskId) (settings : SolverSettings) (timeout : Timeout)
    (r : Record) (cs : List Constraint) (specs : List FieldSpec) :
    match r.fieldValues with
    | .error fault =>
      w.checkAlone m t settings timeout r cs specs = (some (.error (.fault fault)), w)
    | .ok values => ∃ s state checks blocks findings w',
      w.checkAlone m t settings timeout r cs specs = (some (.ok findings), w') ∧
      w.UsedAlone w' m t s state checks blocks.flatten ∧
      Constraint.BalancedTrace m.backend settings.witnessOnViolation
        (some (timeout.getD settings.timeout)) values state (cs ++ compileFieldRules specs) blocks
            findings := by
  cases flat : r.fieldValues with
  | error fault => exact World.checkAlone_of_error flat m t settings timeout cs specs w
  | ok values =>
    obtain ⟨s, state, checks, blocks, findings, w', ran, used, dialogues⟩ :=
      World.checkAlone_dialogues creates rest t settings timeout flat cs specs
    exact ⟨s, state, checks, blocks, findings, w', ran, used, dialogues.balancedTrace⟩

theorem Script.steady (script : Script) : Script.backend.Steady script :=
  ⟨fun _ => rfl, fun _ _ => rfl⟩

/-- A violation with a witness that cannot be found, and a check that fails, on a fresh session. -/
theorem check_trace_balanced_script :
    let m : Surroundings Script := .fresh Script.backend
      (.ofOutcomes [.ok ⟨.unsatisfiable, none, none⟩, .ok ⟨.unknown, none, none⟩,
        .error .outsideScope]) false
    let c : Constraint :=
      ⟨"c", "C", "c holds", .error, .ofList [("x", .amount)], fun _ =>
        .ok (.one (.expr .bool (.const false)))⟩
    let w : World Script := .empty
    ∃ s state checks blocks findings w',
      w.checkAlone m 0 ⟨5000, by decide, true⟩ none .empty [c, c] [] = (some (.ok findings), w') ∧
      w.UsedAlone w' m 0 s state checks blocks.flatten ∧
      Constraint.BalancedTrace m.backend true (some 5000) .empty state [c, c] blocks findings := by
  intro m c w
  have creates : m.Creates m.backend.Steady := Surroundings.creates_fresh (Script.steady _) false
  exact check_trace_balanced creates (.empty _) 0 ⟨5000, by decide, true⟩ none .empty [c, c] []

end RecordAudit
