import RecordAudit.Finding
import RecordAudit.Term.Elaborate

/-!
# Constraints

A constraint declares variables for fields and builds assertions about them.
-/

namespace RecordAudit

open Reading

/-- What a constraint builds: several operands, or one operand for all of them. -/
inductive Built where
  | many (items : List Operand)
  | one (item : Operand)

namespace Built

/-- The items of a plain value that holds several: those of a list, the characters of a text, the
keys of a mapping. -/
def itemsOf (v : Value) : Except Fault (List Operand) :=
  match v with
  | .list items => .ok (items.map .value)
  | .text s => .ok (s.toList.map fun c => .value (.text c.toString))
  | .mapping entries => .ok (entries.map fun e => .value (.text e.1))
  | v => .error (.notIterable v)

/-- The assertions that were built. An expression stands for itself; a plain value has to hold
several. -/
def assertions : Built → Except Fault (List Operand)
  | .many items => .ok items
  | .one (.expr s e) => .ok [.expr s e]
  | .one (.value v) => itemsOf v

end Built

structure Constraint where
  id : String
  name : String
  /-- A sentence for the messages. -/
  description : String
  severity : Severity
  /-- The fields and the kinds of their variables. -/
  kinds : Assoc Kind
  /-- Builds the assertions from the declared variables. -/
  build : Declared → Except Fault Built

namespace Constraint

def kindsOf (given : Assoc Value) : Except Fault (Assoc Kind) := do
  let kinds ← given.entries.mapM fun (name, v) => do return (name, ← Kind.ofValue v)
  return .ofList kinds

/-- A constraint with a severity and kinds that are given by name; the severity is looked at
first. -/
def ofNames (id name description : String) (severity : Value) (kinds : Assoc Value)
    (build : Declared → Except Fault Built) : Except Fault Constraint := do
  let severity ← Severity.ofValue severity
  let kinds ← kindsOf kinds
  return ⟨id, name, description, severity, kinds, build⟩

def ofTerms (id name description : String) (severity : Severity) (kinds : List (String × Kind))
    (terms : List Term) : Constraint :=
  ⟨id, name, description, severity, .ofList kinds, fun declared => do
    return .many (← Term.elaborateAll declared terms)⟩

def fields (c : Constraint) : List String := c.kinds.keys

def assertions (c : Constraint) : Except Fault (List Operand) := do
  (← c.build (declareAll c.kinds)).assertions

end Constraint

end RecordAudit
