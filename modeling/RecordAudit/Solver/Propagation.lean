import RecordAudit.Solver.Candidate

/-!
# Propagation

Assertions force values on variables one after another: a value that is known turns further
assertions into equations of one variable. Assertions are refuted when one of them is false under
the values that are forced. No cases are distinguished, so what is not refuted may still be
contradictory.
-/

namespace RecordAudit

def Pins.set (pins : Pins) (s : VariableSort) (name : String) (value : s.Carrier) : Pins :=
  fun t other => if h : s = t then if name = other then some (h ▸ value) else pins t other
    else pins t other

def Pins.none : Pins := fun _ _ => Option.none

namespace Expr

/-- The difference of two numeric expressions, where it is a single line. -/
def difference? (pins : Pins) {n : Numeric} (a b : Expr (.numeric n)) : Option Line := do
  match ← Line.combine Line.sub (← a.lines? pins) (← b.lines? pins) with
  | [line] => some line
  | _ => none

/-- The value of an expression, where the values of some variables give it. -/
def known? (pins : Pins) : {s : VariableSort} → Expr s → Option s.Carrier
  | s, .var _ name => pins s name
  | _, .const value => some value
  | .numeric n, .arith op a b => do return n.apply op (← a.known? pins) (← b.known? pins)
  | _, .remainder a b => do return Int.emod (← a.known? pins) (← b.known? pins)
  | .numeric n, .negate a => do return n.negate (← a.known? pins)
  | _, .toReal a => do return Numeric.toRat .int (← a.known? pins)
  | _, .ite c a b => do if (← c.known? pins : Bool) then a.known? pins else b.known? pins
  | _, .compare (n := n) c a b =>
    match a.known? pins, b.known? pins, a.difference? pins b with
    | some x, some y, _ => some (n.compare c x y)
    | _, _, some (.constant q) => some (Numeric.compare .real c q (0 : Rat))
    | _, _, _ => none
  | _, .concat a b => do return String.append (← a.known? pins) (← b.known? pins)
  | _, .compareText c a b => do return compareTexts c (← a.known? pins) (← b.known? pins)
  | _, .iff a b => do return (← a.known? pins : Bool) == (← b.known? pins : Bool)
  | _, .not a => do return !(← a.known? pins : Bool)
  | _, .and a b =>
    match (a.known? pins : Option Bool), (b.known? pins : Option Bool) with
    | some false, _ | _, some false => some false
    | some true, some true => some true
    | _, _ => none
  | _, .or a b =>
    match (a.known? pins : Option Bool), (b.known? pins : Option Bool) with
    | some true, _ | _, some true => some true
    | some false, some false => some false
    | _, _ => none
  | _, .implies a b =>
    match (a.known? pins : Option Bool), (b.known? pins : Option Bool) with
    | some false, _ | _, some true => some true
    | some true, some false => some false
    | _, _ => none

end Expr

/-- An expression that has to have a truth value. -/
structure Demand where
  expr : Expr .bool
  truth : Bool

namespace Demand

/-- What a demand comes down to: demands on the parts of connectives as far as they are
determined. -/
def parts (pins : Pins) : (truth : Bool) → Expr .bool → List Demand
  | t, .not a => parts pins (!t) a
  | true, .and a b => parts pins true a ++ parts pins true b
  | false, .and a b => eitherPart false a b (parts pins false a) (parts pins false b) (.and a b)
  | false, .or a b => parts pins false a ++ parts pins false b
  | true, .or a b => eitherPart true a b (parts pins true a) (parts pins true b) (.or a b)
  | false, .implies a b => parts pins true a ++ parts pins false b
  | true, .implies a b =>
    match (a.known? pins : Option Bool), (b.known? pins : Option Bool) with
    | some true, _ => parts pins true b
    | _, some false => parts pins false a
    | _, _ => [⟨.implies a b, true⟩]
  | t, .iff a b =>
    match (a.known? pins : Option Bool), (b.known? pins : Option Bool) with
    | some x, _ => parts pins (x == t) b
    | _, some y => parts pins (y == t) a
    | _, _ => [⟨.iff a b, t⟩]
  | t, e => [⟨e, t⟩]
where
  /-- One of two expressions has to have the truth value: the one, where the other has not. -/
  eitherPart (t : Bool) (a b : Expr .bool) (ofA ofB : List Demand)
      (whole : Expr .bool) : List Demand :=
    match (a.known? pins : Option Bool), (b.known? pins : Option Bool) with
    | some x, some y => if x == t || y == t then [] else [⟨whole, t⟩]
    | some x, none => if x == t then [] else ofB
    | none, some y => if y == t then [] else ofA
    | none, none => [⟨whole, t⟩]

/-- What two numeric expressions being equal says about the variable in their difference. -/
inductive Root where
  | none
  /-- The variable has to have this value. -/
  | value (n : Numeric) (name : String) (value : n.Carrier)
  /-- No value will do. -/
  | missing

def Root.ofLine : Line → Root
  | .constant _ => .none
  | .through n name slope offset =>
    if slope = 0 then .none
    else
      let root := -offset / slope
      match n with
      | .real => .value .real name root
      | .int => if root.den == 1 then .value .int name root.num else .missing

/-- What a demand says about a variable. -/
def root (pins : Pins) : Demand → Root
  | ⟨.compare .eq a b, true⟩ | ⟨.compare .ne a b, false⟩ =>
    ((a.difference? pins b).map Root.ofLine).getD .none
  | _ => .none

/-- Whether a demand cannot be met. -/
def isRefuted (pins : Pins) (d : Demand) : Bool :=
  (d.expr.known? pins : Option Bool) == some (!d.truth) || d.root pins matches .missing

/-- More values, with the one that a demand forces on a variable that has none. -/
def extend? (pins : Pins) (d : Demand) : Option Pins :=
  match d, d.root pins with
  | ⟨.var .bool name, t⟩, _ =>
    if (pins .bool name).isSome then none else some (pins.set .bool name t)
  | _, .value n name value =>
    if (pins (.numeric n) name).isSome then none else some (pins.set (.numeric n) name value)
  | _, _ => none

end Demand

/-- The values that assertions force on variables, in so many rounds; nothing when they are
refuted. -/
def propagateFrom (assertions : List (Expr .bool)) : (rounds : Nat) → Pins → Option Pins
  | 0, pins => some pins
  | rounds + 1, pins =>
    let demands := assertions.flatMap (Demand.parts pins true)
    if demands.any (·.isRefuted pins) then none
    else match demands.findSome? (·.extend? pins) with
      | some more => propagateFrom assertions rounds more
      | none => some pins

/-- The values that assertions force on variables. Every round gives one variable its value. -/
def propagate (assertions : List (Expr .bool)) : Option Pins :=
  propagateFrom assertions ((variablesOf assertions).length + 1) .none

end RecordAudit
