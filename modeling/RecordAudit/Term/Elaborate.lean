import RecordAudit.Assoc
import RecordAudit.Term.Display
import RecordAudit.Term.Operand

/-!
# Terms

Terms are what constraints are written in. A term is elaborated to an operand over the variables
that are declared for a constraint; operands are elaborated from left to right, and the first fault
counts.
-/

namespace RecordAudit

inductive Term where
  | variable (name : String)
  | literal (v : Value)
  | arith (op : ArithOp) (a b : Term)
  | mod (a b : Term)
  | negate (a : Term)
  | compare (c : Comparison) (a b : Term)
  | and (items : List Term)
  | or (items : List Term)
  | not (a : Term)
  | implies (a b : Term)
  | xor (a b : Term)
  | toReal (a : Term)
  | ite (condition a b : Term)

/-- The variables that are declared, as operands. -/
abbrev Declared := Assoc Operand

namespace Declared

def lookup (declared : Declared) (name : String) : Except Fault Operand :=
  match declared.get? name with
  | some operand => .ok operand
  | none => .error (.unknownVariable name)

end Declared

namespace Term

mutual

def elaborate (declared : Declared) : Term → Except Fault Operand
  | .variable name => declared.lookup name
  | .literal v => .ok (.value v)
  | .arith op a b => do
    let a ← a.elaborate declared
    let b ← b.elaborate declared
    Operand.arith op a b
  | .mod a b => do
    let a ← a.elaborate declared
    let b ← b.elaborate declared
    a.mod b
  | .negate a => do (← a.elaborate declared).negate
  | .compare c a b => do
    let a ← a.elaborate declared
    let b ← b.elaborate declared
    Operand.compare c a b
  | .and items => do Operand.conj (← elaborateAll declared items)
  | .or items => do Operand.disj (← elaborateAll declared items)
  | .not a => do (← a.elaborate declared).not
  | .implies a b => do
    let a ← a.elaborate declared
    let b ← b.elaborate declared
    a.implies b
  | .xor a b => do
    let a ← a.elaborate declared
    let b ← b.elaborate declared
    a.xor b
  | .toReal a => do (← a.elaborate declared).toReal
  | .ite condition a b => do
    let condition ← condition.elaborate declared
    let a ← a.elaborate declared
    let b ← b.elaborate declared
    condition.ite a b

def elaborateAll (declared : Declared) : List Term → Except Fault (List Operand)
  | [] => .ok []
  | t :: rest => do
    let operand ← t.elaborate declared
    let operands ← elaborateAll declared rest
    return operand :: operands

end

end Term

namespace Reading.Kind

def sort : Kind → VariableSort
  | .flag | .presence => .bool
  | .count | .date => .int
  | .amount => .real

def declare (kind : Kind) (name : String) : Operand := .expr kind.sort (.var kind.sort name)

/-- A value as a value of the kind's sort: truth as it counts, integers without their fraction, and
real numbers as the fractions of their decimal texts. -/
def sortValue (kind : Kind) (v : Value) : Except Fault kind.sort.Carrier :=
  match kind with
  | .flag | .presence => .ok v.isTruthy
  | .count | .date => v.toInt
  | .amount => v.toFraction

/-- The kind that a value names. -/
def ofValue (given : Value) : Except Fault Kind := chooseByName "VariableKind" all name given

end Reading.Kind

/-- One operand for each field, of the sort of its kind. -/
def declareAll (kinds : Assoc Reading.Kind) : Declared :=
  kinds.mapWithKey fun name kind => kind.declare name

end RecordAudit
