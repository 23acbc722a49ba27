import RecordAudit.Pattern.Token

/-!
# Flags inside a pattern

A pattern can turn flags on for itself at its start, and on or off for one group.
-/

namespace RecordAudit.Pattern

open Text Reader

/-- A token that is a flag, or a fault that says what else could stand here. -/
def flagOf (token : Token) (expected : String) : Reader Flag := do
  match token with
  | .plain c =>
    match Flag.ofLetter? c with
    | some f => return f
    | none => failBack (if isLetter c then .unknownFlag else .missing expected) 1
  | .escaped _ => failBack (.missing expected) 2

/-- Further flags to turn on, and the character that ends them. -/
def readFlagsOn : Nat → List Flag → Flag → Reader (List Flag × Char)
  | 0, _, _ => fail (.missing "-, : or )")
  | fuel + 1, on, flag => do
    if flag == .locale then fail .localeFlag
    if flag.isClassFlag && on.any fun f => f.isClassFlag && f != flag then fail .incompatibleFlags
    let on := on ++ [flag]
    match ← next? with
    | none => fail (.missing "-, : or )")
    | some token =>
      match token with
      | .plain ')' => return (on, ')')
      | .plain '-' => return (on, '-')
      | .plain ':' => return (on, ':')
      | _ => readFlagsOn fuel on (← flagOf token "-, : or )")

/-- Further flags to turn off, up to the colon that ends them. -/
def readFlagsOff : Nat → List Flag → Flag → Reader (List Flag)
  | 0, _, _ => fail (.missing ":")
  | fuel + 1, off, flag => do
    if flag.isClassFlag then fail .classFlagOff
    let off := off ++ [flag]
    match ← next? with
    | none => fail (.missing ":")
    | some (.plain ':') => return off
    | some token => readFlagsOff fuel off (← flagOf token ":")

/-- Flags for the whole pattern, or flags to turn on and off for one group. -/
inductive FlagChange where
  | whole (on : List Flag)
  | scoped (on off : List Flag)

/-- Reads flags that begin with a given flag, or with the sign that turns flags off. -/
def readFlags (first : Option Flag) : Reader FlagChange := do
  let fuel := (← get).rest.length + 1
  let (on, stop) ← match first with
    | some flag => readFlagsOn fuel [] flag
    | none => pure ([], '-')
  if stop == ')' then return .whole on
  if on.any Flag.isWholeFlag then failBack .wholeFlagOn 1
  if stop == ':' then return .scoped on []
  match ← next? with
  | none => fail (.missing "flag")
  | some token =>
    let off ← readFlagsOff fuel [] (← flagOf token "flag")
    if off.any Flag.isWholeFlag then failBack .wholeFlagOff 1
    if on.any off.contains then failBack .flagOnAndOff 1
    return .scoped on off

end RecordAudit.Pattern
