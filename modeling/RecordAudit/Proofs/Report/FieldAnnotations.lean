import RecordAudit.Audit
import RecordAudit.Proofs.Formula.Fields
import RecordAudit.Proofs.Report.FieldMessages
import RecordAudit.Proofs.Session.Gives
import RecordAudit.Proofs.Term.Scope
import RecordAudit.Solver.Script

/-!
# Annotations of fields

The messages on the fields of a record and the statuses of these fields come from the same failures,
so they are about the same fields. What an audit finds is always about some field, since formulas
have fields and the findings of a constraint are about its variables, and then a record has passed
exactly when there is no message.

## Main definitions

* `RecordFindings.Located`: every finding is about some field.
-/

namespace RecordAudit

open TaskM

namespace RecordFindings

variable {f : RecordFindings} {field : String}

/-! ## Fields of messages -/

theorem mem_keys_messages : field ∈ f.messages.keys ↔ ∃ x ∈ f.all, x.FailsOn field := by
  rw [messages, fieldMessages_eq, FieldMessages.mem_keys_pushAll, List.map_append, List.mem_append,
    mem_annotations, mem_annotations]
  simp [Assoc.empty, Assoc.keys, all, Finding.FailsOn, or_and_right, exists_or]

theorem mem_keys_messages_iff : field ∈ f.messages.keys ↔ fieldStatus? field f.all ≠ none :=
  mem_keys_messages.trans fieldStatus?_ne_none_iff.symm

/-- A field has the messages of all failures that touch it, those of rules first. -/
theorem textsOf_messages :
    f.messages.textsOf field = messagesOn id (·.message) field f.rules ++
      messagesOn (·.toFinding) (·.fieldMessage) field f.constraints := by
  rw [messages, fieldMessages_eq, FieldMessages.textsOf_pushAll, List.filter_append,
    List.map_append, annotations_filter, annotations_filter]
  rfl

theorem keys_statuses : f.statuses.keys = f.messages.keys := Assoc.keys_mapWithKey _ _

theorem mem_statuses {entry : String × Option FieldStatus} (mem : entry ∈ f.statuses.entries) :
    entry.1 ∈ f.messages.keys ∧ entry.2 = fieldStatus? entry.1 f.all := by
  obtain ⟨⟨name, texts⟩, there, rfl⟩ := List.mem_map.1 mem
  exact ⟨List.mem_map_of_mem there, rfl⟩

theorem get?_statuses : f.statuses.get? field = (fieldStatus? field f.all).map some := by
  cases status : fieldStatus? field f.all with
  | none =>
    cases found : f.statuses.get? field with
    | none => rfl
    | some value =>
      have there := mem_statuses (Assoc.get?_eq_some_iff.1 found)
      exact absurd status (mem_keys_messages_iff.1 there.1)
  | some value =>
    have touched : field ∈ f.messages.keys := mem_keys_messages_iff.2 (by simp [status])
    rw [← keys_statuses, Assoc.mem_keys_iff] at touched
    obtain ⟨value', there⟩ := touched
    have same : value' = some value := (mem_statuses there).2.trans status
    rw [Assoc.get?_eq_some_iff.2 there, same]
    rfl

/-! ## Records that have passed -/

/-- Every finding is about some field. -/
def Located (f : RecordFindings) : Prop := ∀ x ∈ f.all, x.fields ≠ []

theorem passed_iff : f.passed = true ↔ ∀ x ∈ f.all, x.satisfied = true := by
  simp [passed, violations]

/-- When all findings are about fields, every failure leaves a message. -/
theorem Located.passed_iff (h : f.Located) : f.passed = true ↔ f.messages.entries = [] := by
  have messages_nil : f.messages.entries = [] ↔ ∀ field, field ∉ f.messages.keys := by
    rw [← List.eq_nil_iff_forall_not_mem, Assoc.keys, List.map_eq_nil_iff]
  rw [RecordFindings.passed_iff, messages_nil]
  constructor
  · intro satisfied field mem
    obtain ⟨x, inAll, failed, -⟩ := mem_keys_messages.1 mem
    cases failed.symm.trans (satisfied x inAll)
  · intro untouched x inAll
    by_contra failed
    obtain ⟨field, mem⟩ := List.exists_mem_of_ne_nil _ (h x inAll)
    exact untouched field (mem_keys_messages.2 ⟨x, inAll, Bool.eq_false_iff.2 failed, mem⟩)

end RecordFindings

/-! ## Findings of an audit -/

theorem Rule.fields_finding_ne_nil (rule : Rule) (values : FieldValues) :
    Yields (fun finding => finding.fields ≠ []) (rule.finding values) := by
  intro finding found
  have finds := Rule.of_finding found
  obtain ⟨name, occurs⟩ := List.exists_mem_of_ne_nil _ finds.wellFormed.atomFields_ne_nil
  rw [finds.fields_eq]
  exact List.ne_nil_of_mem (List.mem_eraseDups.2 occurs)

namespace Constraint

theorem fields_finding (c : Constraint) (observed : Observed) (answer : Answer)
    (witness : Option Model) :
    (c.finding observed answer witness).fields = c.fields := by
  unfold finding
  cases answer.verdict <;> rfl

theorem gives_check (c : Constraint) (s : SessionId) (witnessed : Bool) (timeout : Timeout)
    (values : FieldValues) :
    (c.check s witnessed timeout values).Gives fun finding => finding.fields = c.fields := by
  refine Gives.recover ?_ fun fault => rfl
  exact (gives_true _).bind fun _ _ => .pure (c.fields_finding _ _ _)

end Constraint

theorem fields_ne_nil_of_mem_compileFieldRules {specs : List FieldSpec} {c : Constraint}
    (mem : c ∈ compileFieldRules specs) : c.fields ≠ [] := by
  obtain ⟨spec, -, inSpec⟩ := List.mem_flatMap.1 mem
  obtain ⟨rule, -, rfl⟩ := List.mem_map.1 inSpec
  exact List.cons_ne_nil _ _

namespace Audit

variable {a : Audit}

/-- What the audit of a record finds is about fields, when every constraint declares a variable. -/
theorem gives_record (declares : ∀ c ∈ a.constraints, c.fields ≠ []) (r : Record) :
    (a.record r).Gives RecordFindings.Located := by
  have applied : Yields (fun findings => ∀ x ∈ findings, x.fields ≠ []) (applyRules a.rules r) :=
    (Yields.trivial _).bind fun values _ => Yields.mapM fun rule _ =>
      rule.fields_finding_ne_nil values
  have checked : (checkRecord a.settings r a.constraints a.specs a.timeout).Gives
      fun findings => ∀ x ∈ findings, x.fields ≠ [] := by
    refine (gives_true _).bind fun values _ => (gives_true Session.get).bind fun s _ =>
      Gives.mapM fun c mem => ?_
    refine (c.gives_check s _ _ _).mono fun x same => same ▸ ?_
    rcases List.mem_append.1 mem with given | compiled
    · exact declares c given
    · exact fields_ne_nil_of_mem_compileFieldRules compiled
  refine Gives.bind (.ofExcept applied) fun rules fromRules => ?_
  refine checked.bind fun constraints fromConstraints => .pure fun x mem => ?_
  rcases List.mem_append.1 mem with ofRule | ofConstraint
  · exact fromRules x ofRule
  · obtain ⟨y, inConstraints, rfl⟩ := List.mem_map.1 ofConstraint
    exact fromConstraints y inConstraints

variable {σ : Type} {m : Surroundings σ} {records : Assoc Record}

/-- So is what the tasks of all records come to, wherever they start from. -/
theorem gives_start (declares : ∀ c ∈ a.constraints, c.fields ≠ []) (w : World σ)
    (records : Assoc Record) :
    (a.start w records).Gives fun result => ∀ f, result = .ok f → f.Located := by
  refine .ofPrograms (fun p isProgram => ?_) w
  obtain ⟨r, -, rfl⟩ := List.mem_map.1 isProgram
  exact gives_record declares r

theorem located_gather {run : Run σ RecordFindings}
    (h : run.Gives fun result => ∀ f, result = .ok f → f.Located) {result : Assoc RecordFindings}
    (gathered : gather records run = .ok result) :
    ∀ e ∈ result.entries, e.2.Located := by
  intro e mem
  cases came : run.results with
  | error interrupt =>
    rw [gather, came] at gathered
    cases gathered
  | ok findings =>
    rw [gather, came] at gathered
    cases gathered
    exact h.results came e.2 (List.of_mem_zip (Assoc.mem_of_mem_ofList mem)).2

end Audit

/-! ## The theorem -/

/-- The fields with messages are the fields with a status, and it says whether a failure of severity
error touches the field. A field has one message for each time that a failed finding names it, those
of rules first, and the order of the findings does not matter for its status. When every constraint
declares a variable, a record passes an audit, alone or side by side with others, exactly when no
field has a message. -/
theorem field_annotations_agree :
    (∀ (rules : List Finding) (constraints : List ConstraintFinding),
      let f : RecordFindings := ⟨rules, constraints⟩
      (∀ field, field ∈ f.messages.keys ↔ fieldStatus? field f.all ≠ none) ∧
      f.statuses.keys = f.messages.keys ∧
      (∀ e ∈ f.statuses.entries, e.2 = fieldStatus? e.1 f.all ∧ e.2 ≠ none) ∧
      (∀ field, fieldStatus? field f.all = some .failed ↔
        ∃ x ∈ f.all, x.satisfied = false ∧ x.severity = .error ∧ field ∈ x.fields) ∧
      (∀ e ∈ f.messages.entries, e.2 = messagesOn id (·.message) e.1 rules ++
        messagesOn (·.toFinding) (·.fieldMessage) e.1 constraints) ∧
      (∀ findings, findings.Perm f.all →
        ∀ field, fieldStatus? field findings = fieldStatus? field f.all) ∧
      ∀ rules' constraints', rules'.Perm rules → constraints'.Perm constraints →
        ∀ field, (RecordFindings.mk rules' constraints').statuses.get? field =
          f.statuses.get? field) ∧
    ∀ a : Audit, (∀ c ∈ a.constraints, c.fields ≠ []) →
      ∀ {σ : Type} (m : Surroundings σ) (w : World σ),
        (∀ (records : Assoc Record) (events : List (Event σ)) result,
          (Audit.gather records ((a.start w records).applyAll m.toMachine events) = .ok result ∨
            a.records m records = .ok result) →
        ∀ e ∈ result.entries, e.2.passed = true ↔ e.2.messages.entries = []) ∧
      ∀ (r : Record) (t : TaskId) f, (w.runAlone m t (a.record r).run).1 = some (.ok f) →
        (f.passed = true ↔ f.messages.entries = []) := by
  refine ⟨fun rules constraints => ?_, fun a declares σ m w =>
    ⟨fun records events result gathered e mem => ?_, fun r t f came => ?_⟩⟩
  · intro f
    refine ⟨fun field => RecordFindings.mem_keys_messages_iff, RecordFindings.keys_statuses,
      fun e mem => ?_, fun field => fieldStatus?_eq_failed_iff, fun e mem => ?_,
      fun findings same field => fieldStatus?_perm same,
      fun rules' constraints' sameRules sameConstraints field => ?_⟩
    · obtain ⟨touched, status⟩ := RecordFindings.mem_statuses mem
      exact ⟨status, status ▸ RecordFindings.mem_keys_messages_iff.1 touched⟩
    · rw [← FieldMessages.textsOf_eq_of_mem mem, RecordFindings.textsOf_messages]
    · have same : (RecordFindings.mk rules' constraints').all.Perm f.all :=
        sameRules.append (sameConstraints.map _)
      rw [RecordFindings.get?_statuses, RecordFindings.get?_statuses, fieldStatus?_perm same]
  · have start : ∀ w : World σ, (a.start w records).Gives fun result => ∀ f, result = .ok f →
        f.Located :=
      fun w => Audit.gives_start declares w records
    have cancelled : ∀ f : RecordFindings, .error Interrupt.cancelled = Except.ok f →
        f.Located := by
      rintro f ⟨⟩
    have located : e.2.Located := by
      rcases gathered with inOrder | inRounds
      · exact Audit.located_gather ((start w).applyAll cancelled m.toMachine events) inOrder e mem
      · exact Audit.located_gather ((start .empty).rounds m _) inRounds e mem
    exact located.passed_iff
  · exact (Program.Gives.runAlone (Audit.gives_record declares r) came f rfl).passed_iff

/-- A record that passes, and one with a rule that fails as a warning on two fields and a constraint
on two fields that the solver does not decide. -/
theorem field_annotations_agree_pair :
    let m : Surroundings Script := .fresh Script.backend
      (.ofOutcomes [.ok ⟨.satisfiable, none, none⟩, .ok ⟨.unknown, none, none⟩]) false
    let rule : Rule := ⟨"given", "Given", "both are given", .and (.present "x") (.present "z"),
      .warning, false⟩
    let c : Constraint := ⟨"c", "C", "c holds", .info, .ofList [("x", .flag), ("y", .flag)],
      fun _ => .ok (.one (.expr .bool (.const false)))⟩
    let a : Audit := ⟨[rule], [c], [], .standard, none⟩
    let records : Assoc Record :=
      .ofList [("first", .ofList [("x", .text "Yes"), ("z", .text "No")]), ("second", .ofList [])]
    ∃ result, a.records m records = .ok result ∧
      (result.entries.map fun e => (e.2.passed, e.2.statuses.entries)) =
        [(true, []), (false, [("x", some .failed), ("z", some .needsReview),
          ("y", some .failed)])] ∧
      ∀ e ∈ result.entries, e.2.passed = true ↔ e.2.messages.entries = [] := by
  intro m rule c a records
  have declares : ∀ c ∈ a.constraints, c.fields ≠ [] := by decide
  have found : ((a.records m records).toOption.map fun result =>
      result.entries.map fun e => (e.2.passed, e.2.statuses.entries)) =
        some [(true, []), (false,
            [("x", some .failed), ("z", some .needsReview), ("y", some .failed)])] := by
    decide +kernel
  cases came : a.records m records with
  | error interrupt =>
    rw [came] at found
    cases found
  | ok result =>
    rw [came] at found
    refine ⟨result, rfl, Option.some.inj found, ?_⟩
    exact (field_annotations_agree.2 a declares m .empty).1 records [] result (.inr came)

end RecordAudit
