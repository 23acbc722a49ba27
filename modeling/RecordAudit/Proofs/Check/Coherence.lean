import RecordAudit.Proofs.Check.BalancedTrace
import RecordAudit.Proofs.Flattening
import RecordAudit.Proofs.Reading.Exact

/-!
# Findings are coherent

Whatever a backend answers to checks, and whatever fails, the check of a record that has raw texts
finds one thing for each constraint, and what it finds fits its outcome: an explanation where the
constraint is not satisfied, values only where it is violated. Models come from the backend's
answers and say something about the constraint's own variables only.
-/

namespace RecordAudit

open Reading

variable {σ : Type} {b : Backend σ} {m : Surroundings σ} {state : σ} {c : Constraint}
  {values : FieldValues} {calls : List Call} {τ : Timeout} {witnessed : Bool}
  {result : Except Fault (Answer × Option Model)}

/-! ## Observed values -/

theorem Value.isLongInteger_of_digits {i : Int}
    (few : Number.digitCount i.natAbs ≤ Fault.maxIntegerDigits) :
    isLongInteger i = false := by
  have positive : 0 < Fault.maxIntegerDigits := by decide
  unfold isLongInteger
  generalize Fault.maxIntegerDigits = digits at few positive
  exact decide_eq_false (Nat.not_le.2 ((Number.digitCount_le_iff positive).1 few))

/-- What is read for a kind has a text, however long the raw text is. -/
theorem Value.hasLongInteger_read (kind : Kind) (raw : Option String) :
    (ofTyped (kind.read raw)).hasLongInteger = false := by
  cases kind with
  | flag | presence | amount => rfl
  | count => exact isLongInteger_of_digits (digitCount_readCount_le raw)
  | date => exact isLongInteger_of_digits (digitCount_readDay_le raw)

theorem Value.plain_ofTyped (v : Typed) : (ofTyped v).plain = v.text := by
  cases v <;> rfl

/-! ## Models -/

/-- A part of a model has the entries of the variables that the model has, in the order of the
variables. -/
theorem Model.entries_restrict (model : Model) {names : List String} (distinct : names.Nodup) :
    (model.restrict names).entries = names.filterMap fun name => (model.get? name).map fun v =>
      (name, v) := by
  refine Assoc.entries_ofList (distinct.sublist ?_)
  induction names with
  | nil => exact List.Sublist.refl _
  | cons name rest ih =>
    have inRest := ih (List.nodup_cons.1 distinct).2
    rw [List.filterMap_cons]
    cases model.get? name with
    | none => exact inRest.cons name
    | some v => exact inRest.cons_cons name

theorem Model.get?_restrict (model : Model) {names : List String} (distinct : names.Nodup)
    {name : String} (mem : name ∈ names) : (model.restrict names).get? name = model.get? name := by
  refine Option.ext fun value => ?_
  rw [Assoc.get?_eq_some_iff, Model.entries_restrict model distinct, List.mem_filterMap]
  constructor
  · rintro ⟨other, -, entry⟩
    obtain ⟨found, there, same⟩ := Option.map_eq_some_iff.1 entry
    cases same
    exact there
  · intro there
    exact ⟨name, mem, by rw [there]; rfl⟩

/-- One of some calls is a check, and the backend's answer to it is such a verdict with a model. -/
def Backend.Reports (b : Backend σ) (state : σ) (calls : List Call) (verdict : Verdict)
    (model : Model) : Prop :=
  ∃ before τ after answer, calls = before ++ .check τ :: after ∧
    (b.respond (.check τ) (b.after before state)).1 = .ok answer ∧ answer.verdict = verdict ∧
    answer.model = some model

namespace Constraint

/-- The observed values in words: every variable in order, with its raw text and what was read. -/
def observedText (c : Constraint) (values : FieldValues) : String :=
  ", ".intercalate (c.kinds.entries.map fun (name, kind) =>
    let raw := values.raw? name
    name ++ "=" ++ (raw.map Text.quote).getD "<absent>" ++ " -> " ++ (kind.read raw).text)

theorem text_observe (c : Constraint) (values : FieldValues) :
    (c.observe values).text = c.observedText values := by
  unfold Observed.text observe observedText Assoc.mapWithKey
  rw [List.map_map]
  refine congrArg _ (List.map_congr_left fun (name, kind) _ => ?_)
  simp only [Function.comp_apply, Observation.text, Value.plain_ofTyped]
  cases values.raw? name <;> rfl

/-- A model is one that was reported with a verdict, cut down to the constraint's variables. -/
def CutFrom (c : Constraint) (reports : Verdict → Model → Prop) (verdict : Verdict) (cut : Model) :
    Prop :=
  ∃ model, reports verdict model ∧
    cut.entries = c.fields.filterMap fun name => (model.get? name).map fun v => (name, v)

/-- A finding is about the constraint, and says what its outcome allows, given what models were
reported. -/
structure Coherent (c : Constraint) (values : FieldValues) (reports : Verdict → Model → Prop)
    (finding : ConstraintFinding) : Prop where
  id_eq : finding.id = c.id
  name_eq : finding.name = c.name
  fields_eq : finding.fields = c.fields
  satisfied_iff : finding.satisfied = true ↔ finding.outcome = .satisfied
  of_satisfied : finding.outcome = .satisfied →
    finding.explanation = none ∧ finding.counterexample = none ∧ finding.witness = none
  of_violated : finding.outcome = .violated →
    finding.severity = c.severity ∧ finding.explanation =
      some ("Given values (" ++ c.observedText values ++ ") violate constraint: " ++ c.description)
  of_undecided : finding.outcome = .undecided → finding.severity = .error ∧
    finding.explanation.isSome = true ∧ finding.counterexample = none ∧ finding.witness = none
  of_error : finding.outcome = .error → finding.severity = .warning ∧
    finding.explanation.isSome = true ∧ finding.counterexample = none ∧ finding.witness = none
  counterexample_cut : ∀ model, finding.counterexample = some model →
    c.CutFrom reports .unsatisfiable model
  witness_cut : ∀ model, finding.witness = some model → c.CutFrom reports .satisfiable model

variable {reports : Verdict → Model → Prop}

theorem cutFrom_restrict {verdict : Verdict} {model : Model} (reported : reports verdict model) :
    c.CutFrom reports verdict (model.restrict c.fields) :=
  ⟨model, reported, model.entries_restrict c.kinds.nodup_keys⟩

theorem coherent_failedFinding (fault : Fault) :
    c.Coherent values reports (c.failedFinding fault) := by
  constructor <;> simp [failedFinding]

/-- What an answer comes to is coherent, when its model and the witness were reported. -/
theorem coherent_finding {answer : Answer} {witness : Option Model}
    (reported : ∀ model, answer.model = some model → reports answer.verdict model)
    (found : ∀ model, witness = some model → c.CutFrom reports .satisfiable model) :
    c.Coherent values reports (c.finding (c.observe values) answer witness) := by
  unfold finding
  cases verdict : answer.verdict with
  | satisfiable => constructor <;> simp
  | unknown => constructor <;> simp
  | unsatisfiable =>
    have cut : ∀ model, answer.model.map (·.restrict c.fields) = some model →
        c.CutFrom reports .unsatisfiable model := fun model same => by
      obtain ⟨whole, there, rfl⟩ := Option.map_eq_some_iff.1 same
      exact cutFrom_restrict (verdict ▸ reported whole there)
    constructor <;> simp [text_observe]
    · simpa using cut
    · exact found

theorem Dialogue.coherent (dialogue : c.Dialogue b witnessed τ values state calls result) :
    c.Coherent values (b.Reports state calls) (c.findingOf values result) := by
  cases dialogue with
  | unbuilt | refused | unbound | unanswered | unwitnessed => exact coherent_failedFinding _
  | answered prepared replied enough =>
    exact coherent_finding (fun model there => ⟨_, τ, _, _, rfl, replied, rfl, there⟩) nofun
  | @witnessed assertions bindings answer second prepared replied asks unsat replied' =>
    refine coherent_finding (fun model there => ⟨_, τ, _, _, rfl, replied, rfl, there⟩)
      fun model found => ?_
    unfold witnessOf at found
    split at found
    · next satisfiable =>
      obtain ⟨whole, there, rfl⟩ := Option.map_eq_some_iff.1 found
      refine cutFrom_restrict ⟨preparation assertions bindings ++ [.check τ, .pop], τ, [.pop],
        second, ?_, replied', eq_of_beq satisfiable, there⟩
      simp
    · cases found

end Constraint

/-- Whatever the backend answers, and whatever fails, the check of a record that has raw texts finds
one thing for each constraint, in order, and each of them is coherent. The values that it explains
can be written, however long the texts of the record are. A record without raw texts, which has an
integer that is too long to be written in one of its cells, makes the check fail as a whole. -/
theorem findings_coherent (creates : m.Creates m.backend.Steady) {w : World σ}
    (rest : w.AtRest m.backend.Steady) (t : TaskId) (settings : SolverSettings) (timeout : Timeout)
    (r : Record) (cs : List Constraint) (specs : List FieldSpec) :
    match r.fieldValues with
    | .error fault =>
      w.checkAlone m t settings timeout r cs specs = (some (.error (.fault fault)), w) ∧
        fault = .integerTextTooLong ∧ ∃ entry ∈ r.entries, entry.2.hasLongInteger = true
    | .ok values => ∃ s state checks, ∃ blocks : List (List Call), ∃ findings w',
      w.checkAlone m t settings timeout r cs specs = (some (.ok findings), w') ∧
      w.UsedAlone w' m t s state checks blocks.flatten ∧
      findings.length = (cs ++ compileFieldRules specs).length ∧
      ∀ (i : Nat) c, (cs ++ compileFieldRules specs)[i]? = some c → ∃ calls finding,
        blocks[i]? = some calls ∧ findings[i]? = some finding ∧
        c.Coherent values (m.backend.Reports (m.backend.after (blocks.take i).flatten state) calls)
          finding ∧
        ∀ o ∈ (c.observe values).values, o.value.hasLongInteger = false := by
  cases flat : r.fieldValues with
  | error fault =>
    obtain ⟨rfl, entry, inside, failed⟩ := Record.fieldValues_eq_error_iff.1 flat
    exact ⟨World.checkAlone_of_error flat m t settings timeout cs specs w, rfl, entry, inside,
      (hasLongInteger_of_cellText? failed).1⟩
  | ok values =>
    obtain ⟨s, state, checks, blocks, findings, w', ran, used, dialogues⟩ :=
      World.checkAlone_dialogues creates rest t settings timeout flat cs specs
    refine ⟨s, state, checks, blocks, findings, w', ran, used, dialogues.lengths.2.1,
      fun i c there => ?_⟩
    obtain ⟨calls, result, block, finding, dialogue⟩ := dialogues.get there
    refine ⟨calls, _, block, finding, dialogue.coherent, fun o mem => ?_⟩
    obtain ⟨entry, inEntries, rfl⟩ := List.mem_map.1 mem
    obtain ⟨⟨name, kind⟩, -, rfl⟩ := List.mem_map.1 inEntries
    exact Value.hasLongInteger_read kind (values.raw? name)

/-- A violation with a counterexample and a witness, an undecided constraint, and a check that
fails, for a record with a count that is too long to be read. -/
theorem findings_coherent_script :
    let m : Surroundings Script := .fresh Script.backend (.ofOutcomes
      [.ok ⟨.unsatisfiable, some (.ofList [("y", .int 1), ("x", .int 2)]), none⟩,
        .ok ⟨.satisfiable, some (.ofList [("x", .int 3)]), none⟩,
        .ok ⟨.unknown, none, none⟩, .error .outsideScope]) false
    let c : Constraint :=
      ⟨"c", "C", "c holds", .error, .ofList [("x", .count)], fun _ =>
        .ok (.one (.expr .bool (.const false)))⟩
    let w : World Script := .empty
    let digits := String.ofList (List.replicate 5000 '9')
    ∃ s state checks, ∃ blocks : List (List Call), ∃ findings w',
      w.checkAlone m 0 ⟨5000, by decide, true⟩ none (.ofList [("x", .text digits)]) [c, c, c] [] =
        (some (.ok findings), w') ∧
      w.UsedAlone w' m 0 s state checks blocks.flatten ∧ findings.length = 3 ∧
      ∀ (i : Nat) c', [c, c, c][i]? = some c' → ∃ calls finding,
        blocks[i]? = some calls ∧ findings[i]? = some finding ∧
        c'.Coherent (.ofList [("x", some digits)])
          (m.backend.Reports (m.backend.after (blocks.take i).flatten state) calls) finding ∧
        ∀ o ∈ (c'.observe (.ofList [("x", some digits)])).values,
            o.value.hasLongInteger = false := by
  intro m c w digits
  have creates : m.Creates m.backend.Steady := Surroundings.creates_fresh (Script.steady _) false
  exact findings_coherent creates (.empty _) 0 ⟨5000, by decide, true⟩ none
    (.ofList [("x", .text digits)]) [c, c, c] []

/-- An integer that is too long to be written, in a field that no constraint is about, leaves a
check without any finding. -/
theorem no_findings_elsewhere :
    let m : Surroundings Script := .fresh Script.backend (.ofOutcomes []) false
    let c : Constraint :=
      ⟨"c", "C", "c holds", .error, .ofList [("x", .count)], fun _ =>
        .ok (.one (.expr .bool (.const true)))⟩
    let r : Record := .ofList [("x", .text "1"), ("y", .int (10 ^ Fault.maxIntegerDigits))]
    (World.empty.checkAlone m 0 ⟨5000, by decide, false⟩ none r [c] []).1 =
      some (.error (.fault .integerTextTooLong)) := by
  intro m c r
  have flat : r.fieldValues = .error .integerTextTooLong :=
    Record.fieldValues_eq_error_iff.2 ⟨rfl, _, List.mem_cons_of_mem _ (List.mem_singleton.2 rfl),
      cellText?_of_isLongInteger isLongInteger_ten_pow⟩
  rw [World.checkAlone_of_error flat]

end RecordAudit
