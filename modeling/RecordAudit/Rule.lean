import RecordAudit.Finding
import RecordAudit.Formula.Evaluation

/-!
# Rules

A rule is a formula that has to hold for a record. All rules are evaluated in order, whatever
earlier ones give, unless a formula faults.
-/

namespace RecordAudit

structure Rule where
  id : String
  name : String
  /-- A sentence for the messages. -/
  description : String
  formula : Formula
  severity : Severity
  /-- Advice for whoever corrects the record; nothing here follows it. -/
  autoFix : Bool

namespace Rule

/-- The finding of a rule on the raw texts of a record. -/
def finding (rule : Rule) (values : FieldValues) : Except Fault Finding := do
  let satisfied ← (rule.formula.run values).outcome
  let fields ← rule.formula.fields
  return ⟨rule.id, rule.name, satisfied, rule.severity,
    (if satisfied then "✓ " else "✗ ") ++ rule.description, fields⟩

end Rule

/-- The findings of all rules on a record, in the order of the rules. -/
def applyRules (rules : List Rule) (record : Record) : Except Fault (List Finding) := do
  let values ← record.fieldValues
  rules.mapM (·.finding values)

end RecordAudit
