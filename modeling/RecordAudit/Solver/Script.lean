import RecordAudit.Solver.Backend

/-!
# Scripted backends

A backend whose answers are laid down beforehand. It takes every assertion and looks at none.
-/

namespace RecordAudit

structure Script where
  /-- The outcomes of the checks to come. -/
  outcomes : List (Except Fault Answer)
  /-- The number of open frames. -/
  depth : Nat

namespace Script

def ofOutcomes (outcomes : List (Except Fault Answer)) : Script := ⟨outcomes, 0⟩

/-- The answer when nothing is laid down any more. -/
def afterwards : Answer := ⟨.satisfiable, none, none⟩

def backend : Backend Script where
  respond
    | .push, s => (.ok (), { s with depth := s.depth + 1 })
    | .pop, s => (.ok (), { s with depth := s.depth - 1 })
    | .add _, s => (.ok (), s)
    | .check _, s => (s.outcomes.headD (.ok afterwards), { s with outcomes := s.outcomes.tail })

end Script

end RecordAudit
