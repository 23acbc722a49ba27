import RecordAudit.Solver.Answer
import RecordAudit.Term.Operand

/-!
# Backends

A backend keeps assertions in frames and checks those that are live. What matters about one is only
how it responds to each call, and what state the call leaves behind.
-/

namespace RecordAudit

/-- A bound on the time of a check, in milliseconds. -/
abbrev Timeout := Option Int

/-- The calls that a backend takes. -/
inductive Call where
  /-- Opens a frame. -/
  | push
  /-- Drops the newest frame with its assertions. -/
  | pop
  /-- Adds an assertion to the newest frame. -/
  | add (assertion : Operand)
  /-- Checks all live assertions. -/
  | check (timeout : Timeout)

/-- What a call gives when it succeeds. -/
abbrev Call.Reply : Call → Type
  | .check _ => Answer
  | _ => Unit

/-- How states of a backend respond to calls. -/
structure Backend (σ : Type) where
  respond : (c : Call) → σ → Except Fault c.Reply × σ

end RecordAudit
