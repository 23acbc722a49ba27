import RecordAudit.Proofs.Solver.Reported
import RecordAudit.Report

/-!
# Messages and statuses of fields

The messages of failed findings are pushed one by one, each under one of the finding's fields. What
is pushed under other fields does not matter for a field, so its messages are the ones pushed under
it, in their order. The status of a field only depends on which failures touch it.

## Main definitions

* `Finding.FailsOn`: a failure touches a field.
* `messagesOn`: the messages of failed findings on one field.
-/

namespace RecordAudit

variable {α : Type} {field : String}

/-! ## Maps with one more entry -/

theorem lookup_upsert (key : String) (value : α) (entries : List (String × α)) (name : String) :
    (upsert key value entries).lookup name = if name = key
      then some value else entries.lookup name := by
  induction entries with
  | nil =>
    rw [upsert, List.lookup_cons]
    by_cases same : name = key <;> simp [same, beq_eq_false_iff_ne.2]
  | cons entry rest ih =>
    rw [upsert]
    by_cases here : entry.1 = key
    · rw [if_pos here, List.lookup_cons, List.lookup_cons, here]
      by_cases same : name = key <;> simp [same, beq_eq_false_iff_ne.2]
    · rw [if_neg here, List.lookup_cons, List.lookup_cons, ih]
      by_cases same : name = entry.1
      · simp [same, here]
      · simp [beq_eq_false_iff_ne.2 same]

theorem Assoc.get?_insert (m : Assoc α) (key : String) (value : α) (name : String) :
    (m.insert key value).get? name = if name = key then some value else m.get? name :=
  lookup_upsert key value m.entries name

theorem Assoc.mem_keys_iff {m : Assoc α} {name : String} :
    name ∈ m.keys ↔ ∃ value, (name, value) ∈ m.entries := by
  simp [keys]

/-! ## Messages -/

namespace FieldMessages

def textsOf (messages : FieldMessages) (field : String) : List String :=
  (messages.get? field).getD []

theorem textsOf_eq_of_mem {messages : FieldMessages} {texts : List String}
    (mem : (field, texts) ∈ messages.entries) :
    messages.textsOf field = texts := by
  rw [textsOf, Assoc.get?_eq_some_iff.2 mem]
  rfl

theorem textsOf_push (messages : FieldMessages) (other message : String) :
    (messages.push other message).textsOf field =
      messages.textsOf field ++ if other = field then [message] else [] := by
  unfold textsOf push
  rw [Assoc.get?_insert]
  by_cases same : field = other
  · simp [same]
  · simp [same, Ne.symm same]

/-- Pushes messages in turn, each under the field that it comes with. -/
def pushAll (messages : FieldMessages) (pairs : List (String × String)) : FieldMessages :=
  pairs.foldl (fun messages pair => messages.push pair.1 pair.2) messages

theorem mem_keys_pushAll {messages : FieldMessages} {pairs : List (String × String)} :
    field ∈ (messages.pushAll pairs).keys ↔ field ∈ messages.keys ∨ field ∈ pairs.map Prod.fst := by
  induction pairs generalizing messages with
  | nil => simp [pushAll]
  | cons pair rest ih =>
    have pushed : field ∈ (messages.push pair.1 pair.2).keys ↔
        field = pair.1 ∨ field ∈ messages.keys :=
      Assoc.mem_keys_insert
    rw [pushAll, List.foldl_cons, ← pushAll, ih, pushed, List.map_cons, List.mem_cons]
    tauto

theorem textsOf_pushAll (messages : FieldMessages) (pairs : List (String × String)) :
    (messages.pushAll pairs).textsOf field =
      messages.textsOf field ++ (pairs.filter (·.1 == field)).map Prod.snd := by
  induction pairs generalizing messages with
  | nil => simp [pushAll]
  | cons pair rest ih =>
    rw [pushAll, List.foldl_cons, ← pushAll, ih, textsOf_push, List.append_assoc]
    by_cases same : pair.1 = field <;> simp [same]

end FieldMessages

/-- The messages of failed findings, each with one of the finding's fields. -/
def annotations (finding : α → Finding) (message : α → String) (findings : List α) :
    List (String × String) :=
  (findings.filter fun f => !(finding f).satisfied).flatMap fun f =>
    (finding f).fields.map fun field => (field, message f)

/-- The messages of failed findings on a field, one for each time that a finding names it. -/
def messagesOn (finding : α → Finding) (message : α → String) (field : String) (findings : List α) :
    List String :=
  (findings.filter fun f => !(finding f).satisfied).flatMap fun f =>
    List.replicate ((finding f).fields.count field) (message f)

/-- Of a finding's annotations a field gets as many as there are occurrences of it. -/
theorem annotations_filter (finding : α → Finding) (message : α → String) (findings : List α) :
    ((annotations finding message findings).filter (·.1 == field)).map Prod.snd =
      messagesOn finding message field findings := by
  have one : ∀ (fields : List String) (text : String),
      ((fields.map fun name => (name, text)).filter (·.1 == field)).map Prod.snd =
        List.replicate (fields.count field) text := by
    intro fields text
    rw [List.filter_map, List.map_map, List.count_eq_length_filter]
    exact List.map_const'
  rw [annotations, messagesOn, List.filter_flatMap, List.map_flatMap]
  exact List.flatMap_congr fun f _ => one _ _

theorem mem_annotations {finding : α → Finding} {message : α → String} {findings : List α} :
    field ∈ (annotations finding message findings).map Prod.fst ↔
      ∃ f ∈ findings, (finding f).satisfied = false ∧ field ∈ (finding f).fields := by
  simp [annotations, and_assoc]

/-- All messages are pushed one by one, those of rules first. -/
theorem fieldMessages_eq (rules : List Finding) (constraints : List ConstraintFinding) :
    fieldMessages rules constraints = FieldMessages.pushAll .empty
      (annotations id (·.message) rules ++
        annotations (·.toFinding) (·.fieldMessage) constraints) := by
  simp only [fieldMessages, FieldMessages.pushAll, annotations, List.foldl_append,
    List.foldl_flatMap, List.foldl_map, id_eq]

/-! ## Statuses -/

/-- The finding is a failure that touches the field. -/
def Finding.FailsOn (f : Finding) (field : String) : Prop := f.satisfied = false ∧ field ∈ f.fields

/-- The failures that touch a field. -/
def failuresOn (field : String) (findings : List Finding) : List Finding :=
  findings.filter fun f => !f.satisfied && f.fields.contains field

variable {findings : List Finding}

theorem mem_failuresOn {f : Finding} : f ∈ failuresOn field findings ↔
    f ∈ findings ∧ f.FailsOn field := by
  simp [failuresOn, Finding.FailsOn]

/-- The loop stops at the first failure of severity error, and other failures only matter when there
is none. -/
theorem fieldStatus?_go (status : Option FieldStatus) (findings : List Finding) :
    fieldStatus?.go field status findings =
      if (failuresOn field findings).any (·.severity == .error) then some .failed
      else if (failuresOn field findings).isEmpty then status else some .needsReview := by
  induction findings generalizing status with
  | nil => rfl
  | cons f rest ih =>
    rw [fieldStatus?.go]
    by_cases touches : (!f.satisfied && f.fields.contains field) = true
    · have first : failuresOn field (f :: rest) = f :: failuresOn field rest :=
        List.filter_cons_of_pos touches
      have goesOn : (f.satisfied || !f.fields.contains field) = false := by simpa using touches
      rw [goesOn, first, List.any_cons, List.isEmpty_cons, ih (some .needsReview)]
      cases f.severity == .error <;> cases (failuresOn field rest).any (·.severity == .error) <;>
        cases (failuresOn field rest).isEmpty <;> rfl
    · have skipped : failuresOn field (f :: rest) = failuresOn field rest :=
        List.filter_cons_of_neg touches
      have passes : (f.satisfied || !f.fields.contains field) = true := by
        cases satisfied : f.satisfied <;> simp_all
      rw [passes, skipped, if_pos rfl, ih]

/-- So only the failures that touch a field matter for its status, and whether one of them has
severity error. -/
theorem fieldStatus?_eq : fieldStatus? field findings =
    if (failuresOn field findings).any (·.severity == .error) then some .failed
    else if (failuresOn field findings).isEmpty then none else some .needsReview :=
  fieldStatus?_go none findings

theorem fieldStatus?_ne_none_iff : fieldStatus? field findings ≠ none ↔
    ∃ f ∈ findings, f.FailsOn field := by
  have touched : (∃ f ∈ findings, f.FailsOn field) ↔ failuresOn field findings ≠ [] := by
    simp only [← mem_failuresOn]
    exact ⟨fun ⟨f, mem⟩ => List.ne_nil_of_mem mem, List.exists_mem_of_ne_nil _⟩
  rw [touched, fieldStatus?_eq]
  cases failuresOn field findings with
  | nil => simp
  | cons f rest => cases (f :: rest).any (·.severity == .error) <;> simp

theorem fieldStatus?_eq_failed_iff :
    fieldStatus? field findings = some .failed ↔
      ∃ f ∈ findings, f.satisfied = false ∧ f.severity = .error ∧ field ∈ f.fields := by
  have failed : fieldStatus? field findings = some .failed ↔
      (failuresOn field findings).any (·.severity == .error) = true := by
    rw [fieldStatus?_eq]
    cases (failuresOn field findings).any (·.severity == .error) <;>
      cases (failuresOn field findings).isEmpty <;> simp
  rw [failed, List.any_eq_true]
  simp only [mem_failuresOn, Finding.FailsOn, beq_iff_eq]
  exact exists_congr fun f => and_assoc.trans (and_congr_right fun _ => and_assoc.trans
    (and_congr_right fun _ => and_comm))

theorem fieldStatus?_perm {findings' : List Finding} (same : findings.Perm findings') :
    fieldStatus? field findings = fieldStatus? field findings' := by
  have failures : (failuresOn field findings).Perm (failuresOn field findings') := same.filter _
  rw [fieldStatus?_eq, fieldStatus?_eq, failures.any_eq, failures.isEmpty_eq]

end RecordAudit
