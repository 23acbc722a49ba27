import RecordAudit.Check.Basic
import RecordAudit.Report
import RecordAudit.Rule
import RecordAudit.Session.Schedule

/-!
# Audits

An audit of a record applies the rules and then checks the constraints. Many records are audited
side by side, one task a record, with one shared session.
-/

namespace RecordAudit

open TaskM

/-- What an audit found about one record. -/
structure RecordFindings where
  rules : List Finding
  constraints : List ConstraintFinding

namespace RecordFindings

def all (f : RecordFindings) : List Finding := f.rules ++ f.constraints.map (·.toFinding)

def violations (f : RecordFindings) : List Finding := f.all.filter (!·.satisfied)

def passed (f : RecordFindings) : Bool := f.violations.isEmpty

def messages (f : RecordFindings) : FieldMessages := fieldMessages f.rules f.constraints

/-- The status of every field that has messages. -/
def statuses (f : RecordFindings) : Assoc (Option FieldStatus) :=
  f.messages.mapWithKey fun field _ => fieldStatus? field f.all

end RecordFindings

/-- What records are audited against. -/
structure Audit where
  rules : List Rule
  constraints : List Constraint
  specs : List FieldSpec
  settings : SolverSettings
  timeout : Timeout

namespace Audit

/-- Applies the rules to a record and then checks the constraints. -/
def record (a : Audit) (r : Record) : TaskM RecordFindings := do
  let rules ← ofExcept (applyRules a.rules r)
  let constraints ← checkRecord a.settings r a.constraints a.specs a.timeout
  return ⟨rules, constraints⟩

/-- A bound on how often the audit of a record waits: for the shared session and its creation, and
for each constraint for the scope and for two checks. -/
def waits (a : Audit) : Nat := 2 + 3 * (a.constraints.length + (compileFieldRules a.specs).length)

/-- The tasks of all records, none of which has started. -/
def start {σ : Type} (a : Audit) (w : World σ) (records : Assoc Record) : Run σ RecordFindings :=
  Run.ofPrograms w (records.values.map a.record)

/-- What a run of the tasks of all records comes to: findings with the records' names, in their
order, or the first interrupt. -/
def gather {σ : Type} (records : Assoc Record) (run : Run σ RecordFindings) :
    Except Interrupt (Assoc RecordFindings) := do
  let findings ← run.results
  return .ofList (records.keys.zip findings)

/-- Audits records side by side, with one session that is created on the way. -/
def records {σ : Type} (a : Audit) (m : Surroundings σ) (records : Assoc Record) :
    Except Interrupt (Assoc RecordFindings) :=
  gather records ((a.start .empty records).complete m a.waits)

end Audit

end RecordAudit
