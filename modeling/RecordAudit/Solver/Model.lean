import RecordAudit.Solver.Answer
import RecordAudit.Term.Valuation

/-!
# Models

A solver gives values to variables. A model reports them: truth values, integers and texts as they
are, rational numbers as the nearest floating-point numbers, and anything else as its text.
-/

namespace RecordAudit

open Number

/-- An integer, if its decimal text is not too long to be read. -/
def boundedInteger (i : Int) : Except Fault Int :=
  let digits := digitCount i.natAbs
  if Fault.maxIntegerDigits < digits then .error (.tooManyDigits digits) else .ok i

/-- The value that is reported for a value of a sort. -/
def VariableSort.reported : (s : VariableSort) → s.Carrier → Except Fault Value
  | .bool, b => .ok (.bool b)
  | .numeric .int, i => do return .int (← boundedInteger i)
  | .numeric .real, (q : Rat) => do
    let _ ← boundedInteger q.num
    let _ ← boundedInteger q.den
    let x := Binary64.ofRat q
    if x.isFinite then return .float x else throw .quotientTooLarge
  | .text, s => .ok (.text s)

/-- What a solver gives to a name. -/
inductive ModelEntry where
  /-- A value of a variable. -/
  | value (s : VariableSort) (name : String) (x : s.Carrier)
  /-- Anything else, such as an irrational number or a function, with the text that shows it. -/
  | other (name text : String)

namespace ModelEntry

def name : ModelEntry → String
  | .value _ name _ | .other name _ => name

def reported : ModelEntry → Except Fault Value
  | .value s _ x => s.reported x
  | .other _ text => .ok (.text text)

end ModelEntry

/-- The model that reports entries one by one; of two under one name the last counts. -/
def Model.ofEntries (entries : List ModelEntry) : Except Fault Model := do
  return .ofList (← entries.mapM fun e => do return (e.name, ← e.reported))

/-- The model that is reported, if the solver has one. -/
def Model.ofEntries? : Option (List ModelEntry) → Except Fault (Option Model)
  | none => .ok none
  | some entries => do return some (← ofEntries entries)

end RecordAudit
