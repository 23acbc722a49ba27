import RecordAudit.Term.Basic

/-!
# Lines

A numeric expression that uses one variable linearly is a line in that variable. Where an expression
chooses between two, its value lies on one of several lines.
-/

namespace RecordAudit

/-- The values of some variables. -/
abbrev Pins := (s : VariableSort) → String → Option s.Carrier

/-- A constant, or a multiple of a numeric variable with an offset. -/
inductive Line where
  | constant (value : Rat)
  | through (sort : Numeric) (name : String) (slope offset : Rat)
  deriving DecidableEq, Repr

namespace Line

def scale (factor : Rat) : Line → Line
  | .constant q => .constant (factor * q)
  | .through n x slope offset => .through n x (factor * slope) (factor * offset)

/-- The sum of two lines, unless they go with different variables. -/
def add : Line → Line → Option Line
  | .constant p, .constant q => some (.constant (p + q))
  | .constant p, .through n x slope offset => some (.through n x slope (p + offset))
  | .through n x slope offset, .constant q => some (.through n x slope (offset + q))
  | .through m x slope offset, .through n y slope' offset' =>
    if m = n ∧ x = y then some (.through m x (slope + slope') (offset + offset')) else none

def sub (a b : Line) : Option Line := a.add (b.scale (-1))

/-- The product of two lines, one of which has to be constant. -/
def mul : Line → Line → Option Line
  | .constant p, b => some (b.scale p)
  | a, .constant q => some (a.scale q)
  | _, _ => none

/-- The quotient of a line by a constant; among integers both have to be constant. -/
def div : Numeric → Line → Line → Option Line
  | .int, .constant p, .constant q => some (.constant (Int.ediv p.num q.num))
  | .real, a, .constant q => some (a.scale q⁻¹)
  | _, _, _ => none

/-- The remainder of constants. -/
def remainder : Line → Line → Option Line
  | .constant p, .constant q => some (.constant (Int.emod p.num q.num))
  | _, _ => none

def arith (n : Numeric) : ArithOp → Line → Line → Option Line
  | .add => add
  | .sub => sub
  | .mul => mul
  | .div => div n

/-- Every line of one list with every line of another. -/
def combine (f : Line → Line → Option Line) (as bs : List Line) : Option (List Line) :=
  (as.flatMap fun a => bs.map (f a)).mapM id |>.map List.eraseDups

end Line

namespace Expr

/-- The lines that the value of an expression may lie on, if it is linear; a variable with a given
value is a constant. -/
def lines? (pins : Pins) : {n : Numeric} → Expr (.numeric n) → Option (List Line)
  | n, .var _ name =>
    match pins (.numeric n) name with
    | some value => some [.constant (n.toRat value)]
    | none => some [.through n name 1 0]
  | n, .const value => some [.constant (n.toRat value)]
  | n, .arith op a b => do Line.combine (Line.arith n op) (← a.lines? pins) (← b.lines? pins)
  | _, .remainder a b => do Line.combine Line.remainder (← a.lines? pins) (← b.lines? pins)
  | _, .negate a => do return (← a.lines? pins).map (Line.scale (-1))
  | _, .toReal a => a.lines? pins
  | _, .ite _ a b => do return ((← a.lines? pins) ++ (← b.lines? pins)).eraseDups

/-- The differences of the two sides of every comparison within an expression. -/
def differences (pins : Pins) : {s : VariableSort} → Expr s → List (Option (List Line))
  | _, .var _ _ | _, .const _ => []
  | _, .arith _ a b | _, .concat a b => a.differences pins ++ b.differences pins
  | _, .compareText _ a b =>
    -- no line tells the values of a variable for texts apart
    if (a.vars ++ b.vars).any (·.1 == .text) then [none]
    else a.differences pins ++ b.differences pins
  | _, .remainder a b | _, .iff a b | _, .and a b | _, .or a b | _, .implies a b =>
    a.differences pins ++ b.differences pins
  | _, .negate a => a.differences pins
  | _, .toReal a | _, .not a => a.differences pins
  | _, .ite c a b => c.differences pins ++ a.differences pins ++ b.differences pins
  | _, .compare _ a b =>
    (do Line.combine Line.sub (← a.lines? pins) (← b.lines? pins)) ::
      (a.differences pins ++ b.differences pins)

end Expr

end RecordAudit
