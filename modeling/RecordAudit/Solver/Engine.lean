import RecordAudit.Solver.Backend
import RecordAudit.Solver.Model

/-!
# Engines

An engine is a solver as a library offers it. It takes typed assertions only, tells the result of a
check and its model apart, and reports nothing. A backend is made of it: operands are read as
assertions, and what the engine finds becomes an answer with the reported model.
-/

namespace RecordAudit

/-- What an engine says after a check. -/
structure Response where
  /-- Whether the assertions can all be true, if that was found out. -/
  holds : Option Bool
  /-- The entries of the model, if there is one. -/
  model : Option (List ModelEntry)
  /-- Why the engine gave up, if it did. -/
  reason : String

namespace Response

def verdict (r : Response) : Verdict :=
  match r.holds with
  | some true => .satisfiable
  | some false => .unsatisfiable
  | none => .unknown

/-- The answer, with the model unless the engine gave up. -/
def answer (r : Response) : Except Fault Answer := do
  let reason := if r.verdict == .unknown then some r.reason else none
  let model ← if r.verdict != .unknown then Model.ofEntries? r.model else pure none
  return ⟨r.verdict, model, reason⟩

end Response

structure Engine (σ : Type) where
  /-- The engine without assertions and frames. -/
  initial : σ
  assert : Expr .bool → σ → σ
  push : σ → σ
  pop : σ → Except Fault Unit × σ
  /-- Drops all assertions and frames. -/
  reset : σ → σ
  /-- The number of open frames. -/
  depth : σ → Nat
  /-- Checks within so many milliseconds. -/
  check : Int → σ → Option Bool × σ
  model : σ → Option (List ModelEntry)
  reason : σ → String

/-- The milliseconds that a check may take. Without a bound it may take as many as can be given. -/
def Timeout.milliseconds : Timeout → Int
  | none | some 0 => 4294967295
  | some milliseconds => milliseconds

/-- What an operand asserts: a list asserts its items. -/
def Operand.items : Operand → List Operand
  | .value (.list vs) => vs.map .value
  | operand => [operand]

namespace Engine

variable {σ : Type} (e : Engine σ)

/-- A check with what the engine says after it. -/
def respond (milliseconds : Int) (s : σ) : Response × σ :=
  let (holds, s) := e.check milliseconds s
  (⟨holds, e.model s, e.reason s⟩, s)

/-- Adds operands one by one up to the first that is no assertion. -/
def addAll : List Operand → σ → Except Fault Unit × σ
  | [], s => (.ok (), s)
  | operand :: rest, s =>
    match operand.toBool with
    | .ok assertion => addAll rest (e.assert assertion s)
    | .error fault => (.error fault, s)

/-- Checks, and reports the model of the check. -/
def answer (timeout : Timeout) (s : σ) : Except Fault Answer × σ :=
  let (response, s) := e.respond timeout.milliseconds s
  (response.answer, s)

/-- The model of the last check, as long as it shows. -/
def shownModel (s : σ) : Except Fault (Option Model) := Model.ofEntries? (e.model s)

/-- The engine as a backend. -/
def backend : Backend σ where
  respond
    | .push, s => (.ok (), e.push s)
    | .pop, s => e.pop s
    | .add operand, s => e.addAll operand.items s
    | .check timeout, s => e.answer timeout s

end Engine

end RecordAudit
