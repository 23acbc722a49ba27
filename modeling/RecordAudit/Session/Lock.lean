/-!
# Locks

A lock that is handed over in the order of asking. It belongs to one event loop at a time; taken
from another loop it starts anew.
-/

namespace RecordAudit

/-- Tasks are known by number. -/
abbrev TaskId := Nat

structure Lock where
  /-- The event loop that the lock was last taken from. -/
  loop : Nat
  holder : Option TaskId
  /-- The tasks that wait for the lock, the next one first. -/
  waiting : List TaskId
  deriving DecidableEq, Repr

namespace Lock

def free (loop : Nat) : Lock := ⟨loop, none, []⟩

/-- The lock as seen from an event loop. -/
def on (l : Lock) (loop : Nat) : Lock := if l.loop = loop then l else free loop

/-- Takes the lock, or waits for it. -/
def acquire (l : Lock) (t : TaskId) : Lock :=
  match l.holder with
  | none => { l with holder := some t }
  | some _ => { l with waiting := l.waiting ++ [t] }

/-- Hands the lock to the next task that waits. -/
def release (l : Lock) : Lock := { l with holder := l.waiting.head?, waiting := l.waiting.tail }

/-- What a task does that gives up waiting: it leaves the queue, or passes on a lock that it has
just been handed. -/
def abandon (l : Lock) (t : TaskId) : Lock :=
  if l.holder = some t then l.release else { l with waiting := l.waiting.erase t }

end Lock

end RecordAudit
