import RecordAudit.Record

/-!
# Observed values

The values that a check found in a record, beside the raw texts they were read from.
-/

namespace RecordAudit

structure Observation where
  raw : Option String
  value : Value

/-- Observations by field, in the order of a constraint's variables. -/
abbrev Observed := Assoc Observation

namespace Observation

/-- The field, its raw text in quotes, and what was read. -/
def text (field : String) (o : Observation) : String :=
  let raw := match o.raw with
    | some s => Text.quote s
    | none => "<absent>"
  field ++ "=" ++ raw ++ " -> " ++ o.value.plain

end Observation

def Observed.text (observed : Observed) : String :=
  ", ".intercalate (observed.entries.map fun (field, o) => o.text field)

end RecordAudit
