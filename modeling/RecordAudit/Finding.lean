import RecordAudit.Assoc
import RecordAudit.Fault

/-!
# Findings

What a rule or a constraint says about one record: whether it holds, how serious a failure is, and a
message for the fields that it is about.
-/

namespace RecordAudit

/-- How seriously a failure is to be taken. -/
inductive Severity where
  | error
  | warning
  | info
  deriving DecidableEq, Repr

namespace Severity

def all : List Severity := [.error, .warning, .info]

def name : Severity → String
  | .error => "error"
  | .warning => "warning"
  | .info => "info"

def ofValue (given : Value) : Except Fault Severity := chooseByName "Severity" all name given

end Severity

structure Finding where
  id : String
  name : String
  satisfied : Bool
  severity : Severity
  message : String
  fields : List String

/-- What checking a constraint came to. -/
inductive Outcome where
  | satisfied
  | violated
  /-- The solver gave up. -/
  | undecided
  /-- The check itself failed. -/
  | error
  deriving DecidableEq, Repr

namespace Outcome

def all : List Outcome := [.satisfied, .violated, .undecided, .error]

def name : Outcome → String
  | .satisfied => "satisfied"
  | .violated => "violated"
  | .undecided => "undecided"
  | .error => "error"

def ofValue (given : Value) : Except Fault Outcome :=
  chooseByName "ConstraintOutcome" all name given

end Outcome

/-- Values of variables, as a solver reports them. -/
abbrev Model := Assoc Value

/-- What a constraint says about one record. -/
structure ConstraintFinding extends Finding where
  outcome : Outcome
  /-- A model that was reported for a violation. -/
  counterexample : Option Model
  explanation : Option String
  /-- Values that would satisfy the constraint. -/
  witness : Option Model

end RecordAudit
