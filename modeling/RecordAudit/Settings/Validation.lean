import RecordAudit.Number.Reading
import RecordAudit.Settings.Basic
import RecordAudit.Value.Basic

/-!
# Validation of settings

Settings are given as values of any kind. Whole numbers and truth values may also be given as text;
all objections are collected, each with the place it is about.
-/

namespace RecordAudit

open Number Text

/-- Why a value is refused. -/
inductive Refusal where
  /-- A text that writes no whole number. -/
  | unreadableInteger
  /-- A whole number with too many digits. -/
  | oversizedInteger
  | notAnInteger
  /-- A number with a fraction where a whole number is expected. -/
  | fractional
  | notFinite
  /-- A number below the least one allowed. -/
  | tooSmall
  /-- A text or a number that stands for no truth value. -/
  | unreadableFlag
  | notAFlag
  | notAText
  /-- A text with half of a character in it. -/
  | brokenText
  /-- A value that is no mapping where settings are grouped. -/
  | notASection
  deriving DecidableEq, Repr

def Refusal.name : Refusal → String
  | .unreadableInteger => "int_parsing"
  | .oversizedInteger => "int_parsing_size"
  | .notAnInteger => "int_type"
  | .fractional => "int_from_float"
  | .notFinite => "finite_number"
  | .tooSmall => "greater_than_equal"
  | .unreadableFlag => "bool_parsing"
  | .notAFlag => "bool_type"
  | .notAText => "string_type"
  | .brokenText => "string_unicode"
  | .notASection => "model_type"

/-- A refusal with the keys that lead to the refused value. -/
structure Objection where
  path : List String
  cause : Refusal
  deriving DecidableEq, Repr

/-! ## Whole numbers -/

/-- The longest whole number that is read, in characters. -/
def maxSettingLength : Nat := 4300

/-- The text without leading zeros and the low lines among them; a zero or a low line that nothing
else follows stays, and so does one before a point. -/
def dropLeadingZeros? : List Char → Option (List Char)
  | '0' :: rest => go '0' rest
  | cs@(c :: _) => if c == '-' || c.isDigit then some cs else none
  | [] => none
where
  go (last : Char) : List Char → Option (List Char)
    | [] => some [last]
    | c :: rest =>
      if c == '0' || c == '_' then go c rest
      else if c == '.' then some (last :: c :: rest)
      else if c == '-' || c.isDigit then some (c :: rest)
      else none

/-- The text before a point that only zeros follow, at least one. -/
def dropZeroFraction (cs : List Char) : List Char :=
  match cs.dropWhile (· != '.') with
  | '.' :: rest => if !rest.isEmpty && rest.all (· == '0') then cs.takeWhile (· != '.') else cs
  | _ => cs

/-- Whether a character and its successor are low lines. -/
def hasDoubleLowLine : List Char → Bool
  | '_' :: '_' :: _ => true
  | _ :: rest => hasDoubleLowLine rest
  | [] => false

/-- The text without its low lines, where none stands at an end or beside another one. -/
def dropSingleLowLines (cs : List Char) : List Char :=
  if cs.head? == some '_' || cs.getLast? == some '_' || hasDoubleLowLine cs then cs
  else cs.filter (· != '_')

/-- A whole number in plain digits, without superfluous zeros. Digits that are too many are an
objection of their own, whatever follows them. -/
def readPlainInteger (cs : List Char) : Except Refusal Int :=
  let (negative, ds) := match cs with
    | '-' :: rest => (true, rest)
    | cs => (false, cs)
  let run := ds.takeWhile Char.isDigit
  match run with
  | [] => .error .unreadableInteger
  | ['0'] => if ds.length == 1 then .ok 0 else .error .unreadableInteger
  | '0' :: _ => .error .unreadableInteger
  | _ =>
    if maxSettingLength < run.length + (if negative then 1 else 0) then .error .oversizedInteger
    else if run.length < ds.length then .error .unreadableInteger
    else .ok (if negative then -(digitsValue ds : Int) else digitsValue ds)

/-- A whole number as it may be written: with blanks around it, a plus sign, leading zeros, a
fraction of zeros, or low lines between digits. A minus sign may stand before the zeros or behind
them. -/
def readSettingInteger (s : String) : Except Refusal Int :=
  let unsigned := match trimNumber s.toList with
    | '+' :: '-' :: _ => none
    | '+' :: rest => some (false, rest)
    | '-' :: rest => some (true, rest)
    | cs => some (false, cs)
  match unsigned.bind fun (negative, cs) => (dropLeadingZeros? cs).map (negative, ·) with
  | some (negative, cs) =>
    let digits := dropSingleLowLines (dropZeroFraction cs)
    readPlainInteger (if negative then '-' :: digits else digits)
  | none => .error .unreadableInteger

namespace Value

/-- Whether an integer fits into a machine word with a sign. -/
def fitsWord (i : Int) : Bool := -9223372036854775808 ≤ i && i ≤ 9223372036854775807

/-- The value as a whole number. -/
def toSettingInteger : Value → Except Refusal Int
  | .bool b => .ok (if b then 1 else 0)
  | .int i => .ok i
  | .float x =>
    match x.toRat? with
    | none => .error .notFinite
    | some q =>
      if q.den != 1 then .error .fractional
      else if fitsWord q.num && fitsWord (-q.num) then .ok q.num
      else .error .oversizedInteger
  | .text s => readSettingInteger s
  | .brokenText _ => .error .brokenText
  | _ => .error .notAnInteger

/-- Words that stand for truth, and for its opposite; the case of letters does not matter. -/
def trueWords : List String := ["1", "t", "y", "on", "yes", "true"]

def falseWords : List String := ["0", "f", "n", "no", "off", "false"]

def integerAsFlag (i : Int) : Except Refusal Bool :=
  if i == 0 then .ok false else if i == 1 then .ok true else .error .unreadableFlag

/-- The value as a truth value. -/
def toSettingFlag : Value → Except Refusal Bool
  | .bool b => .ok b
  | .int i => if fitsWord i then integerAsFlag i else .error .notAFlag
  | .float x =>
    match (Value.float x).toSettingInteger with
    | .ok i => integerAsFlag i
    | .error _ => .error .notAFlag
  | .text s =>
    let word := String.ofList (s.toList.map Char.toLower)
    if trueWords.contains word then .ok true
    else if falseWords.contains word then .ok false
    else .error .unreadableFlag
  | .brokenText _ => .error .brokenText
  | _ => .error .notAFlag

def toSettingText : Value → Except Refusal String
  | .text s => .ok s
  | .brokenText _ => .error .brokenText
  | _ => .error .notAText

end Value

/-! ## Sections -/

/-- What validating gives: a result, or all objections in order. -/
abbrev Validated (α : Type) := Except (List Objection) α

namespace Validated

variable {α β γ : Type}

/-- Both results, or the objections to both. -/
def both (f : α → β → γ) : Validated α → Validated β → Validated γ
  | .ok a, .ok b => .ok (f a b)
  | .ok _, .error os => .error os
  | .error os, .ok _ => .error os
  | .error os, .error os' => .error (os ++ os')

/-- The objections as they concern a place further out. -/
def under (key : String) : Validated α → Validated α
  | .ok a => .ok a
  | .error os => .error (os.map fun o => { o with path := key :: o.path })

end Validated

/-- The entry of a section, or what counts when there is none. -/
def entryOr {α : Type} (group : List (String × Value)) (key : String) (otherwise : α)
    (read : Value → Except Refusal α) : Validated α :=
  match group.lookup key with
  | none => .ok otherwise
  | some v => (read v).mapError fun cause => [⟨[key], cause⟩]

/-- A bound on the time of checks, which has to be positive. -/
def readTimeout (v : Value) : Except Refusal { t : Int // 1 ≤ t } := do
  let t ← v.toSettingInteger
  if h : 1 ≤ t then return ⟨t, h⟩ else throw .tooSmall

namespace SolverSettings

/-- The settings of the solver that a section gives; other keys are ignored. -/
def ofValue : Value → Validated SolverSettings
  | .mapping entries =>
    Validated.both (fun t w => ⟨t.1, t.2, w⟩)
      (entryOr entries "timeout_ms" ⟨standard.timeout, standard.one_le_timeout⟩ readTimeout)
      (entryOr entries "witness_on_violation" standard.witnessOnViolation Value.toSettingFlag)
  | _ => .error [⟨[], .notASection⟩]

end SolverSettings

namespace LoggingSettings

/-- The settings of logs that a section gives; other keys are ignored. -/
def ofValue : Value → Validated LoggingSettings
  | .mapping entries =>
    Validated.both LoggingSettings.mk
      (entryOr entries "level" standard.level Value.toSettingText)
      (entryOr entries "format" standard.format Value.toSettingText)
  | _ => .error [⟨[], .notASection⟩]

end LoggingSettings

namespace Settings

/-- The section under a key, or the standard when there is none. -/
def sectionOr {α : Type} (entries : List (String × Value)) (key : String) (standard : α)
    (read : Value → Validated α) : Validated α :=
  match entries.lookup key with
  | none => .ok standard
  | some v => (read v).under key

def ofEntries (entries : List (String × Value)) : Validated Settings :=
  Validated.both Settings.mk
    (sectionOr entries "solver" .standard SolverSettings.ofValue)
    (sectionOr entries "logging" .standard LoggingSettings.ofValue)

end Settings

end RecordAudit
