import RecordAudit.Solver.Engine
import RecordAudit.Solver.Propagation
import RecordAudit.Solver.Search

/-!
# Assertion stacks

An engine that keeps a stack of frames of assertions. An assertion is live until its frame is
popped. A stack is checked as a whole as long as it has no frames and does not change after a check;
from then on it is checked step by step. The model of a check of the whole is gone with the next
change. The model of a check in steps stays until the next one, but after a change it does not show
while the stack is seen to be contradictory.
-/

namespace RecordAudit

/-- Assertions in the order of adding. -/
structure Frame where
  /-- Those that were there when the stack was last checked or when the next frame was opened. -/
  settled : List (Expr .bool)
  /-- Those that were added later. -/
  pending : List (Expr .bool)
  /-- Whether the stack has been seen to be contradictory with this frame. -/
  refuted : Bool

namespace Frame

def empty : Frame := ⟨[], [], false⟩

def assertions (f : Frame) : List (Expr .bool) := f.settled ++ f.pending

end Frame

/-- How a stack is checked. -/
inductive CheckMode where
  /-- As a whole, and it has not been checked. -/
  | fresh
  /-- As a whole, and it has not changed since it was checked. -/
  | unchanged
  /-- Step by step. -/
  | stepwise
  deriving DecidableEq, Repr

/-- What remains of the last check. -/
inductive LastCheck where
  | nothing
  /-- The variables, and the values that were found for them. Nothing has changed since. -/
  | current (vars : List (VariableSort × String)) (v : Valuation)
  /-- The same after a change. -/
  | earlier (vars : List (VariableSort × String)) (v : Valuation)
  /-- A contradiction that a search in steps found. -/
  | contradiction

/-- What remains after a change. -/
def LastCheck.aged : LastCheck → LastCheck
  | .current vars v => .earlier vars v
  | last => last

structure AssertionStack where
  /-- The open frames, newest first. -/
  frames : List Frame
  /-- The assertions that are in no frame. -/
  base : Frame
  mode : CheckMode
  last : LastCheck

namespace AssertionStack

def empty : AssertionStack := ⟨[], .empty, .fresh, .nothing⟩

/-- The number of open frames. -/
def depth (s : AssertionStack) : Nat := s.frames.length

/-- All frames, oldest first. -/
def allFrames (s : AssertionStack) : List Frame := s.base :: s.frames.reverse

/-- All live assertions, oldest first. -/
def live (s : AssertionStack) : List (Expr .bool) := s.allFrames.flatMap Frame.assertions

/-- The live assertions that are settled. -/
def settled (s : AssertionStack) : List (Expr .bool) := s.allFrames.flatMap Frame.settled

/-- The live assertions that are pending. -/
def pending (s : AssertionStack) : List (Expr .bool) := s.allFrames.flatMap Frame.pending

/-- Whether the stack is seen to be contradictory: it has been before, or what is settled refutes
one of the pending assertions. -/
def isRefuted (s : AssertionStack) : Bool :=
  s.allFrames.any Frame.refuted ||
    match propagate s.settled with
    | some pins => s.pending.any fun e => (Demand.parts pins true e).any (·.isRefuted pins)
    | none => true

/-- Changes the newest frame, or what is in no frame. -/
def modifyNewest (f : Frame → Frame) (s : AssertionStack) : AssertionStack :=
  match s.frames with
  | [] => { s with base := f s.base }
  | frame :: rest => { s with frames := f frame :: rest }

/-- The stack as it is checked step by step. -/
def inSteps (s : AssertionStack) : AssertionStack :=
  match s.mode with
  | .stepwise => s
  | _ => { s with mode := .stepwise, last := .nothing }

/-- Marks the newest frame as contradictory. -/
def refute (s : AssertionStack) : AssertionStack :=
  s.modifyNewest fun f => { f with refuted := true }

/-- Settles all assertions, and looks whether they are refuted. -/
def settle (s : AssertionStack) : AssertionStack :=
  let s := s.modifyNewest fun f => { f with settled := f.assertions, pending := [] }
  if (propagate s.settled).isNone then s.refute else s

/-- The demands on single comparisons and variables that assertions come down to. -/
def simpleDemands (assertions : List (Expr .bool)) : List (Expr .bool) :=
  let pins := (propagate assertions).getD .none
  (assertions.flatMap (Demand.parts pins true)).filterMap fun d =>
    match d.expr with
    | .var .. | .compare .. | .const _ => some (if d.truth then d.expr else .not d.expr)
    | _ => none

def push (s : AssertionStack) : AssertionStack :=
  let s := s.inSteps.settle
  let s := match decideAssertions (simpleDemands s.settled) with
    | .unsatisfiable => s.refute
    | _ => s
  { s with frames := .empty :: s.frames, last := s.last.aged }

/-- The stack without its newest frame. -/
def pop? (s : AssertionStack) : Option AssertionStack :=
  match s.frames with
  | [] => none
  | _ :: rest => some { s.inSteps with frames := rest, last := s.inSteps.last.aged }

/-- Adds an assertion to the newest frame. -/
def assert (e : Expr .bool) (s : AssertionStack) : AssertionStack :=
  let s := if s.mode == .unchanged then s.inSteps else s
  { s with last := s.last.aged }.modifyNewest fun f => { f with pending := f.pending ++ [e] }

/-- The entries of variables. -/
def entries (vars : List (VariableSort × String)) (v : Valuation) : List ModelEntry :=
  vars.map fun x => .value x.1 x.2 (v x.1 x.2)

/-- The model that shows: that of the last check, or after a contradiction that is gone one of what
is settled. -/
def model? (s : AssertionStack) : Option (List ModelEntry) :=
  match s.last with
  | .nothing => none
  | .current vars v => some (entries vars v)
  | .earlier vars v => if s.mode == .stepwise && s.isRefuted then none else some (entries vars v)
  | .contradiction =>
    if s.mode == .stepwise && s.isRefuted then none
    else match decideAssertions s.settled with
      | .satisfied v => some (entries (variablesOf s.settled) v)
      | _ => none

/-- The stack with its assertions settled, as a check leaves it. -/
def checked (s : AssertionStack) : AssertionStack :=
  match s.mode with
  | .stepwise => { s.settle with last := s.last.aged }
  | _ => { s.settle with mode := .unchanged, last := .nothing }

/-- The stack after a contradiction was found. The last model is kept if no search was needed. -/
def contradicted (s : AssertionStack) : AssertionStack :=
  match s.mode, s.isRefuted, s.last with
  | .stepwise, true, .earlier .. => s
  | .stepwise, _, _ => { s.refute with last := .contradiction }
  | _, _, _ => s

/-- Checks the live assertions. -/
def check (s : AssertionStack) : Option Bool × AssertionStack :=
  let s := s.checked
  match decideAssertions s.live with
  | .satisfied v => (some true, { s with last := .current (variablesOf s.live) v })
  | .unsatisfiable => (some false, s.contradicted)
  | .undecided => (none, { s with last := .nothing })

def engine : Engine AssertionStack where
  initial := empty
  assert := assert
  push := push
  pop s := match s.pop? with
    | some rest => (.ok (), rest)
    | none => (.error .noOpenFrame, s)
  reset _ := empty
  depth := depth
  check _ := check
  model := model?
  reason _ := "incomplete"

/-- The stack as a backend. -/
abbrev backend : Backend AssertionStack := engine.backend

end AssertionStack

end RecordAudit
