import RecordAudit.Fault

/-!
# Comparisons
-/

namespace RecordAudit

inductive Comparison where
  | gt
  | lt
  | eq
  | ne
  | ge
  | le
  deriving DecidableEq, Repr

namespace Comparison

def all : List Comparison := [.gt, .lt, .eq, .ne, .ge, .le]

def name : Comparison → String
  | .gt => "gt"
  | .lt => "lt"
  | .eq => "eq"
  | .ne => "neq"
  | .ge => "ge"
  | .le => "le"

def symbol : Comparison → String
  | .gt => ">"
  | .lt => "<"
  | .eq => "=="
  | .ne => "!="
  | .ge => ">="
  | .le => "<="

def ofValue (given : Value) : Except Fault Comparison := chooseByName "Comparison" all name given

/-- The comparison that holds of exchanged operands. -/
def flip : Comparison → Comparison
  | .gt => .lt
  | .lt => .gt
  | .ge => .le
  | .le => .ge
  | c => c

/-- Whether the comparison holds between operands of which the first is less than the second, equal
to it, or greater. -/
def allows : Comparison → Ordering → Bool
  | .gt, o => o == .gt
  | .lt, o => o == .lt
  | .eq, o => o == .eq
  | .ne, o => o != .eq
  | .ge, o => o != .lt
  | .le, o => o != .gt

end Comparison

end RecordAudit
