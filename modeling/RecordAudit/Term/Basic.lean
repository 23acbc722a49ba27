import RecordAudit.Comparison

/-!
# Typed expressions

Expressions over truth values, integers, rational numbers and texts, with their values. An
expression of a sort has a value of that sort under every valuation; the division of integers goes
with a remainder that is not negative.
-/

namespace RecordAudit

inductive Numeric where
  | int
  | real
  deriving DecidableEq, Repr

inductive VariableSort where
  | bool
  | numeric (n : Numeric)
  | text
  deriving DecidableEq, Repr

namespace VariableSort

abbrev int : VariableSort := .numeric .int

abbrev real : VariableSort := .numeric .real

def name : VariableSort → String
  | .bool => "Bool"
  | .numeric .int => "Int"
  | .numeric .real => "Real"
  | .text => "String"

end VariableSort

abbrev Numeric.Carrier : Numeric → Type
  | .int => Int
  | .real => Rat

abbrev VariableSort.Carrier : VariableSort → Type
  | .bool => Bool
  | .numeric n => n.Carrier
  | .text => String

inductive ArithOp where
  | add
  | sub
  | mul
  | div
  deriving DecidableEq, Repr

namespace Numeric

def apply : (n : Numeric) → ArithOp → n.Carrier → n.Carrier → n.Carrier
  | .int, .add, (a : Int), (b : Int) => a + b
  | .int, .sub, (a : Int), (b : Int) => a - b
  | .int, .mul, (a : Int), (b : Int) => a * b
  | .int, .div, (a : Int), (b : Int) => Int.ediv a b
  | .real, .add, (a : Rat), (b : Rat) => a + b
  | .real, .sub, (a : Rat), (b : Rat) => a - b
  | .real, .mul, (a : Rat), (b : Rat) => a * b
  | .real, .div, (a : Rat), (b : Rat) => a / b

def negate : (n : Numeric) → n.Carrier → n.Carrier
  | .int, (a : Int) => -a
  | .real, (a : Rat) => -a

def toRat : (n : Numeric) → n.Carrier → Rat
  | .int, (a : Int) => a
  | .real, (a : Rat) => a

def order : (n : Numeric) → n.Carrier → n.Carrier → Ordering
  | .int, (a : Int), (b : Int) => compareOfLessAndEq a b
  | .real, (a : Rat), (b : Rat) => if a < b then .lt else if a = b then .eq else .gt

def compare (n : Numeric) (c : Comparison) (a b : n.Carrier) : Bool := c.allows (n.order a b)

def ofInt : (n : Numeric) → Int → n.Carrier
  | .int, i => i
  | .real, i => (i : Rat)

end Numeric

/-- Values for all variables of all sorts. -/
abbrev Valuation := (s : VariableSort) → String → s.Carrier

inductive Expr : VariableSort → Type where
  | var (s : VariableSort) (name : String) : Expr s
  | const {s : VariableSort} (value : s.Carrier) : Expr s
  | arith {n : Numeric} (op : ArithOp) (a b : Expr (.numeric n)) : Expr (.numeric n)
  | remainder (a b : Expr .int) : Expr .int
  | negate {n : Numeric} (a : Expr (.numeric n)) : Expr (.numeric n)
  | toReal (a : Expr .int) : Expr .real
  | ite {s : VariableSort} (condition : Expr .bool) (a b : Expr s) : Expr s
  | compare {n : Numeric} (c : Comparison) (a b : Expr (.numeric n)) : Expr .bool
  | concat (a b : Expr .text) : Expr .text
  | compareText (c : Comparison) (a b : Expr .text) : Expr .bool
  | iff (a b : Expr .bool) : Expr .bool
  | not (a : Expr .bool) : Expr .bool
  | and (a b : Expr .bool) : Expr .bool
  | or (a b : Expr .bool) : Expr .bool
  | implies (a b : Expr .bool) : Expr .bool

/-- The order of texts by their first different characters. -/
def compareTexts (c : Comparison) (a b : String) : Bool := c.allows (compareOfLessAndEq a b)

namespace Expr

def eval (v : Valuation) : {s : VariableSort} → Expr s → s.Carrier
  | _, .var s name => v s name
  | _, .const value => value
  | .numeric n, .arith op a b => n.apply op (a.eval v) (b.eval v)
  | _, .remainder a b => Int.emod (a.eval v) (b.eval v)
  | .numeric n, .negate a => n.negate (a.eval v)
  | _, .toReal a => Numeric.toRat .int (a.eval v)
  | _, .ite condition a b => if condition.eval v = true then a.eval v else b.eval v
  | _, .compare (n := n) c a b => n.compare c (a.eval v) (b.eval v)
  | _, .concat a b => String.append (a.eval v) (b.eval v)
  | _, .compareText c a b => compareTexts c (a.eval v) (b.eval v)
  | _, .iff a b => (a.eval v : Bool) == (b.eval v : Bool)
  | _, .not a => !(a.eval v : Bool)
  | _, .and a b => (a.eval v : Bool) && (b.eval v : Bool)
  | _, .or a b => (a.eval v : Bool) || (b.eval v : Bool)
  | _, .implies a b => !(a.eval v : Bool) || (b.eval v : Bool)

def vars : {s : VariableSort} → Expr s → List (VariableSort × String)
  | _, .var s name => [(s, name)]
  | _, .const _ => []
  | _, .arith _ a b | _, .compare _ a b | _, .concat a b | _, .compareText _ a b =>
    a.vars ++ b.vars
  | _, .remainder a b | _, .iff a b | _, .and a b | _, .or a b | _, .implies a b =>
    a.vars ++ b.vars
  | _, .negate a => a.vars
  | _, .toReal a | _, .not a => a.vars
  | _, .ite condition a b => condition.vars ++ a.vars ++ b.vars

end Expr

end RecordAudit
