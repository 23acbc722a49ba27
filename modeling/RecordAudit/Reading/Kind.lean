import RecordAudit.Reading.Amount
import RecordAudit.Reading.Count
import RecordAudit.Reading.Flag
import RecordAudit.Calendar.Spelling

/-!
# Kinds of variables and the values read for them

A variable of a constraint has a kind, and the kind says how the raw text of the field is read. All
readers are total: text that cannot be read, and no text, give the kind's default.
-/

namespace RecordAudit.Reading

open Number

/-- What a field is read as. -/
inductive Kind where
  | flag
  | count
  | amount
  /-- Text is not modelled: only whether there is any. -/
  | presence
  | date
  deriving DecidableEq, Repr

namespace Kind

def all : List Kind := [.flag, .count, .amount, .presence, .date]

def name : Kind → String
  | .flag => "bool"
  | .count => "int"
  | .amount => "real"
  | .presence => "string"
  | .date => "date"

def ofName? (s : String) : Option Kind := all.find? (·.name == s)

end Kind

/-- A value that was read. -/
inductive Typed where
  | bool (b : Bool)
  | int (i : Int)
  | real (x : Binary64)
  deriving DecidableEq, Repr

/-- A truth value as it is shown. -/
def boolText (b : Bool) : String := if b then "True" else "False"

/-- A typed value as it is shown in messages. -/
def Typed.text : Typed → String
  | .bool b => boolText b
  | .int i => toString i
  | .real x => x.text

/-- The value that a raw text gives for a kind. -/
def Kind.read (kind : Kind) (raw : Option String) : Typed :=
  match kind with
  | .flag => .bool (readFlag raw)
  | .count => .int (readCount raw)
  | .amount => .real (readAmount raw)
  | .presence => .bool (readPresence raw)
  | .date => .int (Calendar.readDay raw)

end RecordAudit.Reading
