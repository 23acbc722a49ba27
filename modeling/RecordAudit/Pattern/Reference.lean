import RecordAudit.Pattern.Escape
import RecordAudit.Number.Reading
import RecordAudit.Text.Identifier

/-!
# Groups and references to them

Groups are numbered in the order in which they open, and may have names. A reference names a group
that is closed before it.
-/

namespace RecordAudit.Pattern

open Text Reader

def Progress.groupCount (s : Progress) : Nat := s.widths.length + 1

def Progress.closedWidth? (s : Progress) (group : Nat) : Option Width :=
  match group with
  | 0 => none
  | n + 1 => (s.widths[n]?).join

/-- Inside a look-behind only groups closed before it can be referred to. -/
def checkLookBehind (group : Nat) : Reader Unit := do
  let s ← get
  match s.behindFrom with
  | none => return
  | some first =>
    if (s.closedWidth? group).isNone then fail .openGroup
    else if first ≤ group then fail .groupOfSameLookBehind

/-- A reference to a group that exists, written with so many characters. -/
def readReference (options : Options) (group written : Nat) : Reader Node := do
  match (← get).closedWidth? group with
  | none => failBack .openGroup written
  | some width =>
    checkLookBehind group
    return .reference group width options.folding

/-- A code or a reference that begins with a digit other than zero: three octal digits are a
code. -/
def readNumbered (options : Options) (c : Char) : Reader Node := do
  let second ← takeUpTo Char.isDigit 1
  let third ← if isOctal c && !second.isEmpty && second.all isOctal then takeUpTo isOctal 1
    else pure []
  let digits := c :: (second ++ third)
  if !third.isEmpty then return literal options (← octalCode digits)
  let group := valueIn 10 digits
  if group < (← get).groupCount then readReference options group (digits.length + 1)
  else failBack (.unknownGroup group) digits.length

def openGroup (name : Option String) : Reader Nat := do
  let s ← get
  let group := s.groupCount
  let names ← match name with
    | none => pure s.names
    | some name =>
      match s.names.lookup name with
      | some earlier => failBack (.groupNameTaken name group earlier) (name.length + 1)
      | none => pure ((name, group) :: s.names)
  set { s with widths := s.widths ++ [none], names }
  return group

def closeGroup (group : Nat) (width : Width) : Reader Unit :=
  modify fun s => { s with widths := s.widths.set (group - 1) (some width) }

def readGroupName (terminator : Char) : Reader (List Char) := do
  let name ← readName terminator "group name"
  if isIdentifier name then return name
  else failBack (.badNameCharacter (String.ofList name)) (name.length + 1)

def readNamedReference (options : Options) : Reader Node := do
  let name ← readGroupName ')'
  match (← get).names.lookup (String.ofList name) with
  | none => failBack (.unknownGroupName (String.ofList name)) (name.length + 1)
  | some group => readReference options group (name.length + 1)

/-- Conditions on groups from this number on are refused at once. -/
def maxGroups : Nat := 1073741823

/-- A group number has at most so many digits. -/
def maxGroupDigits : Nat := 4300

/-- The group that a condition asks for, by name or by number. -/
def readCondition : Reader Nat := do
  let name ← readName ')' "group name"
  let written := name.length + 1
  if isIdentifier name then
    match (← get).names.lookup (String.ofList name) with
    | none => failBack (.unknownGroupName (String.ofList name)) written
    | some group => return group
  else
    match Number.readInteger maxGroupDigits name with
    | .ok (.ofNat 0) => failBack .badGroupNumber written
    | .ok (.ofNat group) =>
      if maxGroups ≤ group then failBack (.unknownGroup group) written
      let s ← get
      if !s.conditions.any (·.1 == group) then
        set { s with conditions := s.conditions ++ [(group, s.position - written)] }
      return group
    | _ => failBack (.badNameCharacter (String.ofList name)) written

end RecordAudit.Pattern
