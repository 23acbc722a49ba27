import RecordAudit.Solver.Candidate
import RecordAudit.Term.Valuation

/-!
# Search

A depth-first search through the candidates of all variables. A branch is given up as soon as some
assertion whose variables all have values is false.
-/

namespace RecordAudit

/-- An assertion with its variables. -/
structure Goal where
  assertion : Expr .bool
  vars : List (VariableSort × String)

namespace Goal

def ofExpr (e : Expr .bool) : Goal := ⟨e, e.vars.eraseDups⟩

def holds (g : Goal) (v : Valuation) : Bool := g.assertion.eval v

/-- Whether the goal can still become true once the given variables have their values. -/
def isOpen (g : Goal) (bound : List (VariableSort × String)) (v : Valuation) : Bool :=
  !g.vars.all bound.contains || g.holds v

end Goal

/-- A valuation from the domains, on top of a given one, that makes every goal true. -/
def search (goals : List Goal) :
    List Domain → List (VariableSort × String) → Valuation → Option Valuation
  | [], _, v => if goals.all (·.holds v) then some v else none
  | d :: rest, bound, v =>
    d.values.findSome? fun value =>
      let v := v.set d.sort d.name value
      let bound := (d.sort, d.name) :: bound
      if goals.all (·.isOpen bound v) then search goals rest bound v else none

/-- What a search says about assertions. -/
inductive Decision where
  /-- They are all true under the valuation. -/
  | satisfied (v : Valuation)
  | unsatisfiable
  /-- Nothing was found, and not every possibility was covered. -/
  | undecided

/-- Whether the candidates of the variables stand for all their values: every variable has a value
of its own, or every comparison is linear. -/
def covered (assertions : List (Expr .bool)) (differences : List (Option (List Line))) : Bool :=
  (variablesOf assertions).all (fun (s, name) => (pinsOf assertions s name).isSome) ||
    differences.all Option.isSome

/-- Whether some valuation makes all assertions true. -/
def decideAssertions (assertions : List (Expr .bool)) : Decision :=
  let differences := assertions.flatMap (Expr.differences (pinsOf assertions))
  match search (assertions.map .ofExpr) (domains assertions (differences.filterMap id))
      [] .zero with
  | some v => .satisfied v
  | none => if covered assertions differences then .unsatisfiable else .undecided

end RecordAudit
