import RecordAudit.Pattern.Basic
import RecordAudit.Pattern.Fault

/-!
# Tokens of patterns

Patterns are read in one pass from left to right. A character that follows a backslash forms one
token with it. What a place means depends on the groups that were opened and closed before it, so
these are part of the reader's state.
-/

namespace RecordAudit.Pattern

inductive Token where
  | plain (c : Char)
  | escaped (c : Char)
  deriving DecidableEq, Repr

def Token.text : Token → List Char
  | .plain c => [c]
  | .escaped c => ['\\', c]

structure Progress where
  source : List Char
  rest : List Char
  /-- The count of characters read. -/
  position : Nat
  /-- The options of the whole pattern. -/
  options : Options
  /-- The widths of the groups, first group first; an open group has none yet. -/
  widths : List (Option Width)
  names : List (String × Nat)
  /-- Inside a look-behind, the number of the first group that began in it. -/
  behindFrom : Option Nat
  /-- Groups that conditions refer to by number, with the places of the references. -/
  conditions : List (Nat × Nat)

abbrev Reader := StateT Progress (Except Fault)

namespace Reader

def failAt {α : Type} (cause : Cause) (position : Nat) : Reader α := do
  throw ⟨cause, some (Place.of (← get).source position)⟩

/-- Fails at the place of the next token. -/
def fail {α : Type} (cause : Cause) : Reader α := do failAt cause (← get).position

/-- Fails some characters before the next token. -/
def failBack {α : Type} (cause : Cause) (count : Nat) : Reader α := do
  failAt cause ((← get).position - count)

def peek? : Reader (Option Token) := do
  match (← get).rest with
  | [] => return none
  | '\\' :: c :: _ => return some (.escaped c)
  | c :: _ => return some (.plain c)

def checkDangling : Reader Unit := do
  let s ← get
  if s.rest == ['\\'] then failAt .danglingEscape s.position

def next? : Reader (Option Token) := do
  match ← peek? with
  | none => return none
  | some token =>
    let length := token.text.length
    modify fun s => { s with rest := s.rest.drop length, position := s.position + length }
    checkDangling
    return some token

def accept (c : Char) : Reader Bool := do
  if (← peek?) == some (.plain c) then
    let _ ← next?
    return true
  else return false

/-- Reads at most so many characters that satisfy a condition. -/
def takeUpTo (p : Char → Bool) : Nat → Reader (List Char)
  | 0 => return []
  | n + 1 => do
    match ← peek? with
    | some (.plain c) =>
      if p c then
        let _ ← next?
        return c :: (← takeUpTo p n)
      else return []
    | _ => return []

/-- Reads tokens up to a terminator, which is read as well. -/
def takeUntil (terminator : Char) (what : String) : Nat → List Char → Reader (List Char)
  | 0, _ => fail (.missing what)
  | fuel + 1, name => do
    match ← next? with
    | none =>
      if name.isEmpty then fail (.missing what)
      else failBack (.unterminatedName terminator) name.length
    | some token =>
      if token == .plain terminator then
        if name.isEmpty then failBack (.missing what) 1 else return name
      else takeUntil terminator what fuel (name ++ token.text)

/-- Reads a name up to a terminator. -/
def readName (terminator : Char) (what : String) : Reader (List Char) := do
  takeUntil terminator what ((← get).rest.length + 1) []

/-- Skips tokens up to and including the given one. -/
def skipPast (c : Char) : Nat → Reader Bool
  | 0 => return false
  | fuel + 1 => do
    match ← next? with
    | none => return false
    | some token => if token == .plain c then return true else skipPast c fuel

end Reader

end RecordAudit.Pattern
