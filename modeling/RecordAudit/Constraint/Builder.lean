import RecordAudit.Constraint.Basic

/-!
# Building a constraint part by part

Of each part the latest value counts. A severity is looked at when it is given, the kinds of
variables when the constraint is built.
-/

namespace RecordAudit

structure ConstraintBuilder where
  id : Option String
  name : Option String
  description : Option String
  severity : Option Severity
  kinds : Option (Assoc Value)
  build : Option (Declared → Except Fault Built)

namespace ConstraintBuilder

def empty : ConstraintBuilder := ⟨none, none, none, none, none, none⟩

def withSeverity (b : ConstraintBuilder) (given : Value) : Except Fault ConstraintBuilder := do
  return { b with severity := some (← Severity.ofValue given) }

/-- The names of the parts that are not given, or are empty. -/
def missing (b : ConstraintBuilder) : List String :=
  [("id", (b.id.filter (· != "")).isNone),
    ("name", (b.name.filter (· != "")).isNone),
    ("description", (b.description.filter (· != "")).isNone),
    ("severity", b.severity.isNone),
    ("variables", (b.kinds.filter (!·.isEmpty)).isNone),
    ("build", b.build.isNone)].filterMap fun (part, absent) => if absent then some part else none

def finish (b : ConstraintBuilder) : Except Fault Constraint :=
  match b.missing, b with
  | [], ⟨some id, some name, some description, some severity, some kinds, some build⟩ => do
    return ⟨id, name, description, severity, ← Constraint.kindsOf kinds, build⟩
  | missing, _ => .error (.incompleteConstraint missing)

/-- What is asked of a builder: to take a value for a part, or to build the constraint. -/
inductive Step where
  | id (given : Option String)
  | name (given : Option String)
  | description (given : Option String)
  | severity (given : Value)
  | kinds (given : Assoc Value)
  | build (given : Option (Declared → Except Fault Built))
  | finish

/-- How a builder responds to a step: with a constraint if it is asked for one, and with what it is
afterwards. -/
def respond (b : ConstraintBuilder) : Step → Except Fault (Option Constraint) × ConstraintBuilder
  | .id given => (.ok none, { b with id := given })
  | .name given => (.ok none, { b with name := given })
  | .description given => (.ok none, { b with description := given })
  | .severity given =>
    match b.withSeverity given with
    | .ok changed => (.ok none, changed)
    | .error fault => (.error fault, b)
  | .kinds given => (.ok none, { b with kinds := some given })
  | .build given => (.ok none, { b with build := given })
  | .finish => (b.finish.map some, b)

end ConstraintBuilder

end RecordAudit
