import RecordAudit.Check.Observed
import RecordAudit.Constraint.FieldRule
import RecordAudit.Solver.Answer

/-!
# Findings of checks

What a solver's answer says about a constraint and the values that were observed.
-/

namespace RecordAudit

/-- The part of a model that is about some variables, in their order. -/
def Model.restrict (m : Model) (names : List String) : Model :=
  .ofList (names.filterMap fun name => (m.get? name).map fun v => (name, v))

namespace Constraint

def observe (c : Constraint) (values : FieldValues) : Observed :=
  c.kinds.mapWithKey fun name kind =>
    let raw := values.raw? name
    ⟨raw, .ofTyped (kind.read raw)⟩

/-- The finding of a check that failed itself. -/
def failedFinding (c : Constraint) (fault : Fault) : ConstraintFinding where
  id := c.id
  name := c.name
  satisfied := false
  severity := .warning
  message := "⚠ Could not validate: " ++ c.description
  fields := c.fields
  outcome := .error
  counterexample := none
  explanation := some ("SMT solver error: " ++ fault.message)
  witness := none

/-- The finding that an answer comes to; the witness matters only for a violation. -/
def finding (c : Constraint) (observed : Observed) (answer : Answer) (witness : Option Model) :
    ConstraintFinding :=
  match answer.verdict with
  | .satisfiable =>
    { id := c.id
      name := c.name
      satisfied := true
      severity := c.severity
      message := "✓ " ++ c.description
      fields := c.fields
      outcome := .satisfied
      counterexample := none
      explanation := none
      witness := none }
  | .unsatisfiable =>
    { id := c.id
      name := c.name
      satisfied := false
      severity := c.severity
      message := "✗ " ++ c.description
      fields := c.fields
      outcome := .violated
      counterexample := answer.model.map (·.restrict c.fields)
      explanation :=
        some ("Given values (" ++ observed.text ++ ") violate constraint: " ++ c.description)
      witness := witness }
  | .unknown =>
    let reason := (answer.reason.filter (· != "")).getD "unknown"
    { id := c.id
      name := c.name
      satisfied := false
      severity := .error
      message := "? Could not decide: " ++ c.description
      fields := c.fields
      outcome := .undecided
      counterexample := none
      explanation := some ("Solver could not decide the constraint (" ++ reason ++
        ") for values (" ++ observed.text ++ ")")
      witness := none }

end Constraint

end RecordAudit
