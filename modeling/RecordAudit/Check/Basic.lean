import RecordAudit.Check.Finding
import RecordAudit.Session.Scope
import RecordAudit.Settings.Basic

/-!
# Checks

A constraint is checked against a record in a scope of its own: its assertions are added, and in a
frame within it every variable is set equal to the value that the record holds. The assertions allow
these values or contradict them.
-/

namespace RecordAudit

open TaskM Reading

def VariableSort.equals (s : VariableSort) (name : String) (value : s.Carrier) : Expr .bool :=
  match s with
  | .bool => .iff (.var .bool name) (.const value)
  | .numeric n => .compare .eq (.var (.numeric n) name) (.const value)
  | .text => .compareText .eq (.var .text name) (.const value)

namespace Reading.Kind

def binding (kind : Kind) (name : String) (v : Typed) : Except Fault (Expr .bool) := do
  return kind.sort.equals name (← kind.sortValue (.ofTyped v))

end Reading.Kind

namespace Constraint

def bind (c : Constraint) (s : SessionId) (values : FieldValues) : TaskM Unit :=
  c.kinds.entries.forM fun (name, kind) => do
    Session.add s (.expr .bool (← ofExcept (kind.binding name (kind.read (values.raw? name)))))

/-- Values that satisfy the assertions which are live, if the solver has some. -/
def findWitness (c : Constraint) (s : SessionId) (timeout : Timeout) : TaskM (Option Model) := do
  let answer ← Session.check s timeout
  return if answer.verdict == .satisfiable then answer.model.map (·.restrict c.fields) else none

/-- The solver's answer on the constraint with a record's values, and a witness if one is asked
for. -/
def examine (c : Constraint) (s : SessionId) (witnessed : Bool) (timeout : Timeout)
    (values : FieldValues) : TaskM (Answer × Option Model) :=
  Session.scope s do
    (← ofExcept c.assertions).forM (Session.add s)
    let answer ← Session.frame s do
      c.bind s values
      Session.check s timeout
    let witness ←
      if witnessed && answer.verdict == .unsatisfiable then c.findWitness s timeout else pure none
    return (answer, witness)

/-- Checks the constraint against a record. A fault on the way becomes a finding. -/
def check (c : Constraint) (s : SessionId) (witnessed : Bool) (timeout : Timeout)
    (values : FieldValues) : TaskM ConstraintFinding :=
  recover
    (do
      let (answer, witness) ← c.examine s witnessed timeout values
      return c.finding (c.observe values) answer witness)
    c.failedFinding

end Constraint

/-- Checks constraints against a record one by one in a shared session, then those of the fields'
own rules. Without a timeout the one of the settings counts. -/
def checkRecord (settings : SolverSettings) (record : Record) (constraints : List Constraint)
    (specs : List FieldSpec) (timeout : Timeout) : TaskM (List ConstraintFinding) := do
  let values ← ofExcept record.fieldValues
  let s ← Session.get
  (constraints ++ compileFieldRules specs).mapM fun c =>
    c.check s settings.witnessOnViolation (some (timeout.getD settings.timeout)) values

end RecordAudit
