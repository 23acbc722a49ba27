import RecordAudit.Finding

/-!
# Reports

Failed findings grouped by severity, for people, and gathered by field, for whoever corrects a
record.
-/

namespace RecordAudit

namespace Severity

/-- The heading of a section of a report. -/
def heading (tier : String) (count : Nat) : Severity → String
  | .error => "❌ " ++ tier ++ "ERRORS (" ++ toString count ++ "):"
  | .warning => "⚠️  " ++ tier ++ "WARNINGS (" ++ toString count ++ "):"
  | .info => "ℹ️  " ++ tier ++ "INFO (" ++ toString count ++ "):"

end Severity

namespace Report

def bullet (message : String) : String := "  • " ++ message

/-- The failed ones among findings of one severity. -/
def failures {α : Type} (finding : α → Finding) (severity : Severity) (findings : List α) :
    List α :=
  findings.filter fun f => !(finding f).satisfied && (finding f).severity == severity

/-- The section of one severity, empty when nothing of that severity failed. -/
def sectionLines {α : Type} (finding : α → Finding) (lines : α → List String) (tier : String)
    (findings : List α) (severity : Severity) : List String :=
  match failures finding severity findings with
  | [] => []
  | failed => "" :: severity.heading tier failed.length :: failed.flatMap lines

/-- All sections, most serious first, or a text that says that nothing failed. -/
def text {α : Type} (finding : α → Finding) (lines : α → List String) (tier allPassed : String)
    (findings : List α) : String :=
  match Severity.all.flatMap (sectionLines finding lines tier findings) with
  | [] => allPassed
  | lines => "\n".intercalate lines ++ "\n"

/-- The report on the findings of rules. -/
def ofRules (findings : List Finding) : String :=
  text id (fun f => [bullet f.message]) "" "✅ All validation rules passed!" findings

/-- The lines of a failed constraint: its message and, unless it is for information only, its
explanation. -/
def constraintLines (f : ConstraintFinding) : List String :=
  let explained := f.explanation.filter fun e => e != "" && f.severity != .info
  bullet f.message :: explained.toList.map ("    " ++ ·)

/-- The report on the findings of constraints. -/
def ofConstraints (findings : List ConstraintFinding) : String :=
  text (·.toFinding) constraintLines "SMT " "✅ All SMT constraints satisfied!" findings

end Report

/-- The message of a constraint for the fields that it is about. -/
def ConstraintFinding.fieldMessage (f : ConstraintFinding) : String :=
  match f.explanation.filter (· != "") with
  | some explanation => "[SMT] " ++ f.message ++ " (" ++ explanation ++ ")"
  | none => "[SMT] " ++ f.message

/-- Messages by field. -/
abbrev FieldMessages := Assoc (List String)

namespace FieldMessages

/-- Adds a message to the field's messages. -/
def push (messages : FieldMessages) (field message : String) : FieldMessages :=
  messages.insert field ((messages.get? field).getD [] ++ [message])

end FieldMessages

/-- The messages of failed findings by field, those of rules first; a field stands where its first
message does. -/
def fieldMessages (rules : List Finding) (constraints : List ConstraintFinding) : FieldMessages :=
  let failed := (rules.filter (!·.satisfied)).map (fun f => (f.fields, f.message)) ++
    (constraints.filter (!·.satisfied)).map (fun f => (f.fields, f.fieldMessage))
  failed.foldl (fun messages (fields, message) =>
    fields.foldl (fun messages field => messages.push field message) messages) .empty

/-- What is to be done about a field. -/
inductive FieldStatus where
  /-- A failure of severity error touches the field. -/
  | failed
  /-- Only milder failures touch it. -/
  | needsReview
  deriving DecidableEq, Repr

def FieldStatus.name : FieldStatus → String
  | .failed => "validation_failed"
  | .needsReview => "needs_review"

/-- The status of a field, if any failure touches it. The first one of severity error decides. -/
def fieldStatus? (field : String) (findings : List Finding) : Option FieldStatus :=
  go none findings
where
  go (status : Option FieldStatus) : List Finding → Option FieldStatus
    | [] => status
    | f :: rest =>
      if f.satisfied || !f.fields.contains field then go status rest
      else if f.severity == .error then some .failed
      else go (some .needsReview) rest

end RecordAudit
