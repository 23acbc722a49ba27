import RecordAudit.Solver.Line

/-!
# Candidates

Where every comparison is linear, its truth changes only where a line crosses zero. One value on
each crossing and one in each gap between crossings are therefore enough to try for a variable.
-/

namespace RecordAudit

namespace Line

/-- Where a line crosses zero, if it goes with the variable. -/
def crossing? (n : Numeric) (name : String) : Line → Option Rat
  | .constant _ => none
  | .through m x slope offset =>
    if m = n ∧ x = name ∧ slope ≠ 0 then some (-offset / slope) else none

end Line

/-- A value in the middle of each gap between ascending points, and one beyond the last. -/
def afterEach : List Rat → List Rat
  | [] => []
  | [p] => [p + 1]
  | p :: q :: rest => (p + q) / 2 :: afterEach (q :: rest)

/-- The rational numbers to try: the points, and one number in each gap that they leave. -/
def rationalCandidates (points : List Rat) : List Rat :=
  let sorted := points.mergeSort (· ≤ ·)
  match sorted with
  | [] => []
  | first :: _ => sorted ++ afterEach sorted ++ [first - 1]

/-- The integers to try: those at the points and those next to them. -/
def integerCandidates (points : List Rat) : List Int :=
  points.flatMap fun p => [p.floor, p.floor + 1, p.ceil - 1]

/-- The values of a sort to try when comparisons change their truth at the points. Zero and one are
always among them. -/
def candidates (s : VariableSort) (points : List Rat) : List s.Carrier :=
  match s with
  | .bool => [false, true]
  | .text => [""]
  | .numeric .int => ((0 : Int) :: 1 :: integerCandidates points).eraseDups
  | .numeric .real => ((0 : Rat) :: 1 :: rationalCandidates points).eraseDups

/-- The points at which comparisons in a variable change their truth. -/
def crossings (differences : List (List Line)) : VariableSort → String → List Rat
  | .bool, _ | .text, _ => []
  | .numeric n, name => (differences.flatMap (·.filterMap (Line.crossing? n name))).eraseDups

/-- A variable with the values to try for it. -/
structure Domain where
  sort : VariableSort
  name : String
  values : List sort.Carrier

namespace Expr

/-- The variable that an expression sets equal to a value, with that value. -/
def pin? : Expr .bool → Option ((s : VariableSort) × String × s.Carrier)
  | .compare (n := n) .eq (.var _ name) (.const value) => some ⟨.numeric n, name, value⟩
  | .compare (n := n) .eq (.const value) (.var _ name) => some ⟨.numeric n, name, value⟩
  | .iff (.var _ name) (.const value) => some ⟨.bool, name, value⟩
  | .iff (.const value) (.var _ name) => some ⟨.bool, name, value⟩
  | _ => none

end Expr

/-- The values that assertions give to variables outright; of several for one variable, the
first. -/
def pinsOf (assertions : List (Expr .bool)) : Pins := fun s name =>
  assertions.findSome? fun e =>
    match e.pin? with
    | some ⟨t, other, value⟩ =>
      if h : t = s then if other = name then some (h ▸ value) else none else none
    | none => none

/-- The variables of assertions, each once, in the order of their first occurrence. -/
def variablesOf (assertions : List (Expr .bool)) : List (VariableSort × String) :=
  (assertions.flatMap Expr.vars).eraseDups

/-- The values to try for the variables of some assertions. -/
def domains (assertions : List (Expr .bool)) (differences : List (List Line)) : List Domain :=
  let pins := pinsOf assertions
  (variablesOf assertions).map fun (s, name) =>
    match pins s name with
    | some value => ⟨s, name, [value]⟩
    | none => ⟨s, name, candidates s (crossings differences s name)⟩

end RecordAudit
