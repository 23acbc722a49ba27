import RecordAudit.Constraint.Basic

/-!
# Rules on single fields

A field may come with rules that compare its amount with a threshold. The rules of number fields
become constraints; a threshold is read only when its constraint builds its assertion, so that one
that cannot be read is a fault of that constraint.
-/

namespace RecordAudit

open Number Text Reading

inductive FieldType where
  | text
  | number
  | date
  | boolean
  | list
  deriving DecidableEq, Repr

namespace FieldType

def all : List FieldType := [.text, .number, .date, .boolean, .list]

def name : FieldType → String
  | .text => "text"
  | .number => "number"
  | .date => "date"
  | .boolean => "boolean"
  | .list => "list"

def ofValue (given : Value) : Except Fault FieldType := chooseByName "FieldType" all name given

end FieldType

/-- A comparison of a field's amount with a threshold. -/
structure FieldRule where
  id : String
  comparison : Comparison
  threshold : Value
  description : Option String

structure FieldSpec where
  id : String
  name : String
  type : FieldType
  rules : List FieldRule

/-- The threshold that a value gives: a number is itself, and anything else has to have a figure in
its text, which is then read as amounts are. -/
def readThreshold (v : Value) : Except Fault Binary64 :=
  match v with
  | .int _ | .float _ => v.toBinary64
  | _ =>
    let text := trim v.plain.toList
    if text.any isFigure then .ok (readAmount (some (String.ofList text)))
    else .error (.unreadableThreshold v)

namespace FieldSpec

def constraint (spec : FieldSpec) (rule : FieldRule) : Constraint where
  id := "dynamic_" ++ spec.id ++ "_" ++ rule.id
  name := spec.name ++ " Validation"
  description := (rule.description.filter (· != "")).getD (spec.name ++ " check")
  severity := .error
  kinds := .ofList [(spec.id, .amount)]
  build := fun declared => do
    let threshold ← readThreshold rule.threshold
    let amount ← declared.lookup spec.id
    return .many [← Operand.compare rule.comparison amount (.value (.float threshold))]

end FieldSpec

/-- The constraints of all rules of number fields, in order. -/
def compileFieldRules (specs : List FieldSpec) : List Constraint :=
  (specs.filter (·.type == .number)).flatMap fun spec => spec.rules.map spec.constraint

end RecordAudit
