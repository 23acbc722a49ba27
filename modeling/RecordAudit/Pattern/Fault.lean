import RecordAudit.Text.Quoted

/-!
# Faults of patterns

The causes for which a text is no pattern. Most faults know the place at which reading stopped.
-/

namespace RecordAudit.Pattern

open Text

inductive Cause where
  | nothingToRepeat
  | repeatedRepetition
  | boundsReversed
  | boundTooLarge
  | boundTooLong (digits : Nat)
  | unterminatedSet
  | badRange (low high : String)
  | unterminatedGroup
  | unterminatedComment
  | unbalancedParenthesis
  | unknownExtension (text : String)
  | unexpectedEnd
  /-- Something that has to stand here is missing. -/
  | missing (what : String)
  | unterminatedName (terminator : Char)
  | badNameCharacter (name : String)
  | unknownGroupName (name : String)
  | groupNameTaken (name : String) (group earlier : Nat)
  | badGroupNumber
  | unknownGroup (group : Nat)
  | openGroup
  | groupOfSameLookBehind
  | tooManyBranches
  | badEscape (text : String)
  | danglingEscape
  | incompleteEscape (text : String)
  | octalTooLarge (text : String)
  | unknownCharacterName (name : String)
  | misplacedFlags
  | unknownFlag
  | localeFlag
  | incompatibleFlags
  | classFlagOff
  | wholeFlagOn
  | wholeFlagOff
  | flagOnAndOff
  | asciiAndUnicode
  | variableLookBehind
  | repetitionRefused (mode : String)
  deriving DecidableEq, Repr

def Cause.message : Cause → String
  | .nothingToRepeat => "nothing to repeat"
  | .repeatedRepetition => "multiple repeat"
  | .boundsReversed => "min repeat greater than max repeat"
  | .boundTooLarge => "the repetition number is too large"
  | .boundTooLong n =>
    "Exceeds the limit (4300 digits) for integer string conversion: value has " ++ toString n ++
      " digits; use sys.set_int_max_str_digits() to increase the limit"
  | .unterminatedSet => "unterminated character set"
  | .badRange low high => "bad character range " ++ low ++ "-" ++ high
  | .unterminatedGroup => "missing ), unterminated subpattern"
  | .unterminatedComment => "missing ), unterminated comment"
  | .unbalancedParenthesis => "unbalanced parenthesis"
  | .unknownExtension text => "unknown extension ?" ++ text
  | .unexpectedEnd => "unexpected end of pattern"
  | .missing what => "missing " ++ what
  | .unterminatedName terminator => "missing " ++ terminator.toString ++ ", unterminated name"
  | .badNameCharacter name => "bad character in group name " ++ quote name
  | .unknownGroupName name => "unknown group name " ++ quote name
  | .groupNameTaken name group earlier =>
    "redefinition of group name " ++ quote name ++ " as group " ++ toString group ++
      "; was group " ++ toString earlier
  | .badGroupNumber => "bad group number"
  | .unknownGroup group => "invalid group reference " ++ toString group
  | .openGroup => "cannot refer to an open group"
  | .groupOfSameLookBehind => "cannot refer to group defined in the same lookbehind subpattern"
  | .tooManyBranches => "conditional backref with more than two branches"
  | .badEscape text => "bad escape " ++ text
  | .danglingEscape => "bad escape (end of pattern)"
  | .incompleteEscape text => "incomplete escape " ++ text
  | .octalTooLarge text => "octal escape value " ++ text ++ " outside of range 0-0o377"
  | .unknownCharacterName name => "undefined character name " ++ quote name
  | .misplacedFlags => "global flags not at the start of the expression"
  | .unknownFlag => "unknown flag"
  | .localeFlag => "bad inline flags: cannot use 'L' flag with a str pattern"
  | .incompatibleFlags => "bad inline flags: flags 'a', 'u' and 'L' are incompatible"
  | .classFlagOff => "bad inline flags: cannot turn off flags 'a', 'u' and 'L'"
  | .wholeFlagOn => "bad inline flags: cannot turn on global flag"
  | .wholeFlagOff => "bad inline flags: cannot turn off global flag"
  | .flagOnAndOff => "bad inline flags: flag turned on and off"
  | .asciiAndUnicode => "ASCII and UNICODE flags are incompatible"
  | .variableLookBehind => "look-behind requires fixed-width pattern"
  | .repetitionRefused mode => "internal: unsupported template operator " ++ mode

/-- A place in a pattern; in a pattern of several lines also the line and the column. -/
structure Place where
  position : Nat
  lineAndColumn : Option (Nat × Nat)
  deriving DecidableEq, Repr

def Place.of (source : List Char) (position : Nat) : Place :=
  let before := source.take position
  let column := position - (before.reverse.dropWhile (· ≠ '\n')).length + 1
  ⟨position, if source.contains '\n' then some (before.count '\n' + 1, column) else none⟩

def Place.text (place : Place) : String :=
  " at position " ++ toString place.position ++
    match place.lineAndColumn with
    | some (line, column) => " (line " ++ toString line ++ ", column " ++ toString column ++ ")"
    | none => ""

structure Fault where
  cause : Cause
  place : Option Place
  deriving DecidableEq, Repr

def Fault.message (f : Fault) : String :=
  f.cause.message ++ match f.place with
    | some place => place.text
    | none => ""

end RecordAudit.Pattern
