import RecordAudit.Assoc
import RecordAudit.Value.Convert

/-!
# Records

A record maps field names to cells. A cell is a plain value, a mapping with an entry `value`, or an
object that holds a value; nothing else in a cell is looked at.
-/

namespace RecordAudit

abbrev Record := Assoc Value

/-- The raw texts of a record's fields; an absent value is `none`. -/
abbrev FieldValues := Assoc (Option String)

/-- The text of a value, if there is a value. An integer may be too long to be written. -/
def Value.presentText? : Value → Except Fault (Option String)
  | .null => .ok none
  | v => if v.hasLongInteger then .error .integerTextTooLong else .ok (some v.plain)

/-- The raw text that a cell holds. -/
def cellText? : Value → Except Fault (Option String)
  | .mapping entries =>
    match entries.lookup "value" with
    | some v => v.presentText?
    | none => .ok none
  | .boxed content => content.presentText?
  | v => v.presentText?

/-- The raw texts of all cells. -/
def Record.fieldValues (r : Record) : Except Fault FieldValues := do
  return .ofList (← r.entries.mapM fun (field, cell) => do return (field, ← cellText? cell))

/-- The raw text of a field, absent also when the record has no such field. -/
def FieldValues.raw? (values : FieldValues) (field : String) : Option String :=
  (values.get? field).join

end RecordAudit
