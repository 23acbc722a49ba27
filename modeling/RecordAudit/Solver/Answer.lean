import RecordAudit.Finding
import RecordAudit.Value.Convert

/-!
# Answers of solvers

What a solver says about the assertions that it holds, with a model where it has one.
-/

namespace RecordAudit

inductive Verdict where
  | satisfiable
  | unsatisfiable
  | unknown
  deriving DecidableEq, Repr

namespace Verdict

def all : List Verdict := [.satisfiable, .unsatisfiable, .unknown]

def name : Verdict → String
  | .satisfiable => "sat"
  | .unsatisfiable => "unsat"
  | .unknown => "unknown"

/-- The verdict that a value names. -/
def ofValue (given : Value) : Except Fault Verdict := chooseByName "SolverResult" all name given

end Verdict

/-- The answer of one check. -/
structure Answer where
  verdict : Verdict
  model : Option Model
  /-- Why the solver gave up. -/
  reason : Option String

/-- The answer as a line of text, with the name of the solver and the time it took. -/
def Answer.text (answer : Answer) (solver : String) (milliseconds : Value) :
    Except Fault String := do
  let suffix := " (" ++ solver ++ ", " ++ (← milliseconds.fixed 2) ++ "ms)"
  match answer.verdict with
  | .unknown =>
    let reason := match answer.reason.filter (· != "") with
      | some reason => ": " ++ reason
      | none => ""
    return "Unknown" ++ reason ++ suffix
  | verdict =>
    let entries := match answer.model with
      | some model => model.entries.map fun (name, v) => name ++ "=" ++ v.plain
      | none => []
    return verdict.name ++ " [" ++ ", ".intercalate entries ++ "]" ++ suffix

end RecordAudit
