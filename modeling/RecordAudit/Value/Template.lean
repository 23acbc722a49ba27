import RecordAudit.Number.Precision
import RecordAudit.Value.Convert

/-!
# Templates

A template is a text with places that values fill. A place is a percent sign, then possibly the key
of an entry in parentheses, flags, a width, a precision, and a letter that says how the value is
written. Faults come in the order of the text: a place is filled before the next one is looked at.
-/

namespace RecordAudit

open Number Text

namespace Template

/-- A count in a place: absent, written, taken from the value that fills the template, or more than
a count may be. -/
inductive Measure where
  | absent
  | count (n : Nat)
  | given
  | excessive

structure Flags where
  /-- Blanks go behind the text. -/
  left : Bool
  /-- A number that is not negative has a plus sign. -/
  plus : Bool
  /-- A number that is not negative has a blank for its sign. -/
  blank : Bool
  /-- The base or the point is always written. -/
  explicit : Bool
  /-- Zeros fill the width. -/
  zeros : Bool

/-- The key of a place. -/
inductive Key where
  | absent
  | name (s : String)
  /-- A key whose parentheses are not closed. -/
  | unclosed

/-- A place of a template. -/
structure Place where
  key : Key
  flags : Flags
  width : Measure
  precision : Measure
  /-- The letter, and its position in the template; there is none when the template ends before
  it. -/
  letter : Option (Char × Nat)

inductive Piece where
  | literal (c : Char)
  | place (p : Place)

/-! ## Reading -/

/-- The key up to the parenthesis that closes it, after so many open ones, and what follows. -/
def splitKey : (opened : Nat) → List Char → Option (List Char × List Char)
  | _, [] => none
  | opened, c :: rest =>
    if c == ')' && opened == 1 then some ([], rest)
    else
      let opened := if c == '(' then opened + 1 else if c == ')' then opened - 1 else opened
      (splitKey opened rest).map fun (key, rest) => (c :: key, rest)

def isFlag (c : Char) : Bool := ['-', '+', ' ', '#', '0'].contains c

/-- A count that is at most a bound, or a star, and what follows. -/
def splitMeasure (bound : Nat) (otherwise : Measure) (cs : List Char) : Measure × List Char :=
  match cs with
  | '*' :: rest => (.given, rest)
  | _ =>
    match cs.takeWhile Char.isDigit with
    | [] => (otherwise, cs)
    | ds =>
      let n := digitsValue ds
      (if n ≤ bound then .count n else .excessive, cs.drop ds.length)

def maxWidth : Nat := 9223372036854775807

def maxPrecision : Nat := 2147483647

/-- The place at the start of a text that stands at a position, behind the percent sign, and what
follows it. -/
def splitPlace (position : Nat) (cs : List Char) : Place × List Char :=
  let (key, rest) : Key × List Char := match cs with
    | '(' :: inner =>
      match splitKey 1 inner with
      | some (name, rest) => (.name (String.ofList name), rest)
      | none => (.unclosed, [])
    | _ => (.absent, cs)
  let marks := rest.takeWhile isFlag
  let flags : Flags :=
    ⟨marks.contains '-', marks.contains '+', marks.contains ' ', marks.contains '#',
      marks.contains '0'⟩
  let (width, rest) := splitMeasure maxWidth .absent (rest.drop marks.length)
  let (precision, rest) : Measure × List Char := match rest with
    | '.' :: rest => splitMeasure maxPrecision (.count 0) rest
    | _ => (.absent, rest)
  let rest := match rest with
    | c :: after => if ['h', 'l', 'L'].contains c then after else rest
    | [] => []
  match rest with
  | [] => (⟨key, flags, width, precision, none⟩, [])
  | c :: after =>
    (⟨key, flags, width, precision, some (c, position + (cs.length - rest.length))⟩, after)

/-- The pieces of a text that stands at a position; every piece takes at least one character. -/
def piecesFrom : (fuel position : Nat) → List Char → List Piece
  | 0, _, _ | _, _, [] => []
  | fuel + 1, position, '%' :: '%' :: rest => .literal '%' :: piecesFrom fuel (position + 2) rest
  | fuel + 1, position, '%' :: rest =>
    let (p, after) := splitPlace (position + 1) rest
    .place p :: piecesFrom fuel (position + 1 + (rest.length - after.length)) after
  | fuel + 1, position, c :: rest => .literal c :: piecesFrom fuel (position + 1) rest

def pieces (cs : List Char) : List Piece := piecesFrom cs.length 0 cs

/-! ## Writing -/

/-- What fills a template: a value, or a term that has a name for its type and a text. -/
inductive Filling where
  | value (v : Value)
  | term (typeName shown : String) (indexed : Bool)

namespace Filling

def typeName : Filling → String
  | .value v => v.fullTypeName
  | .term typeName _ _ => typeName

/-- Whether places may name entries, so that it need not be used as a whole. -/
def isIndexed : Filling → Bool
  | .value (.list _) | .value (.mapping _) => true
  | .value _ => false
  | .term _ _ indexed => indexed

def entry (f : Filling) (key : String) : Except Fault Filling :=
  match f with
  | .value (.mapping entries) =>
    match entries.lookup key with
    | some v => .ok (.value v)
    | none => .error (.template (.missingKey key))
  | .value (.list _) => .error (.template .indexByText)
  | _ => .error (.template .mappingRequired)

end Filling

/-- What fills the next place, as far as it has not been used. -/
structure Supply where
  filling : Filling
  used : Bool

def Supply.take (s : Supply) : Except Fault (Filling × Supply) :=
  if s.used then .error (.template .tooFewArguments) else .ok (s.filling, { s with used := true })

def Supply.takeCount (s : Supply) (bound : Nat) (word : String) : Except Fault (Int × Supply) := do
  let (f, s) ← s.take
  let v := match f with
    | .value v => v
    | .term .. => .null
  match v with
  | .bool b => return (if b then 1 else 0, s)
  | .int i =>
    if i ≤ bound && -(bound : Int) - 1 ≤ i then return (i, s)
    else throw (.template (.countTooLarge word))
  | _ => throw (.template .countExpected)

/-- A text cut and filled to the measures of a place. A number has its sign, and the mark of its
base, in front of the zeros that fill it. -/
def arrange (flags : Flags) (width : Nat) (isNumber hasBaseMark : Bool) (cs : List Char) :
    List Char :=
  let (sign, digits) := match isNumber, cs with
    | true, '-' :: rest => (['-'], rest)
    | true, cs => (if flags.plus then ['+'] else if flags.blank then [' '] else [], cs)
    | false, cs => ([], cs)
  let (mark, digits) := if hasBaseMark then (digits.take 2, digits.drop 2) else ([], digits)
  let missing := width - (sign.length + mark.length + digits.length)
  if flags.left then sign ++ mark ++ digits ++ List.replicate missing ' '
  else if isNumber && flags.zeros then sign ++ mark ++ List.replicate missing '0' ++ digits
  else List.replicate missing ' ' ++ sign ++ mark ++ digits

/-- The text of a value with what is beyond ASCII written by code points. -/
def asciiOnly (s : String) : List Char :=
  s.toList.flatMap fun c => if c.toNat < 128 then [c] else codePointEscape c.toNat

/-- The text of a filling for one of the letters for texts. -/
def textOf (letter : Char) : Filling → Except Fault (List Char)
  | .term _ shown _ => .ok shown.toList
  | .value v =>
    if v.hasLongInteger then .error .integerTextTooLong
    else .ok <| match letter with
      | 's' => v.plain.toList
      | 'r' => v.shown.toList
      | _ => asciiOnly v.shown

/-- The integer of a filling. A letter for another base than ten takes integers only. -/
def integerOf (letter : Char) (f : Filling) : Except Fault Int :=
  let isDecimal := letter == 'd' || letter == 'i' || letter == 'u'
  match f with
  | .value (.bool b) => .ok (if b then 1 else 0)
  | .value (.int i) => .ok i
  | .value (.float x) =>
    if isDecimal then (Value.float x).toInt
    else .error (.template (.integerRequired letter "float"))
  | f =>
    .error (.template <|
      if isDecimal then .numberRequired letter f.typeName else .integerRequired letter f.typeName)

/-- An integer in the base of a letter, with a least count of digits. -/
def integerText (letter : Char) (explicit : Bool) (precision : Nat) (i : Int) :
    Except Fault (List Char) := do
  let (base, mark) : Nat × List Char := match letter with
    | 'o' => (8, ['0', 'o'])
    | 'x' => (16, ['0', 'x'])
    | 'X' => (16, ['0', 'X'])
    | _ => (10, [])
  if base == 10 && Value.isLongInteger i then throw .integerTextTooLong
  let ds := padLeft precision '0' (Nat.toDigits base i.natAbs)
  let ds := if letter == 'X' then ds.map Char.toUpper else ds
  return signed (i < 0) ((if explicit then mark else []) ++ ds)

/-- A floating-point number in the form of a letter. -/
def floatText (letter : Char) (explicit : Bool) (precision : Nat) (x : Binary64) : List Char :=
  let form : NumberForm := match letter.toLower with
    | 'f' => .fixed
    | 'e' => .scientific
    | _ => .general
  let cs := x.precisionText form explicit precision
  if letter.isUpper then cs.map Char.toUpper else cs

/-- The character that a filling is, or that its code point names. -/
def characterOf : Filling → Except Fault Char
  | .value (.text s) =>
    match s.toList with
    | [c] => .ok c
    | _ => .error (.template .characterRequired)
  | .value (.bool b) => .ok (if b then '\x01' else '\x00')
  | .value (.int i) =>
    if 0 ≤ i && i < 0x110000 then .ok (Char.ofNat i.toNat)
    else .error (.template .characterOutOfRange)
  | _ => .error (.template .characterRequired)

/-- A filling as a place with a letter writes it. -/
def write (flags : Flags) (width : Nat) (precision : Option Nat) (letter : Char) (position : Nat)
    (f : Filling) : Except Fault (List Char) :=
  if ['s', 'r', 'a'].contains letter then do
    let cs ← textOf letter f
    return arrange flags width false false (cs.take (precision.getD cs.length))
  else if ['d', 'i', 'u', 'o', 'x', 'X'].contains letter then do
    let i ← integerOf letter f
    let cs ← integerText letter flags.explicit (precision.getD 0) i
    return arrange flags width true (flags.explicit && ['o', 'x', 'X'].contains letter) cs
  else if ['e', 'E', 'f', 'F', 'g', 'G'].contains letter then do
    match f with
    | .value (.bool _) | .value (.int _) | .value (.float _) => pure ()
    | f => throw (.template (.realRequired f.typeName))
    let x ← match f with
      | .value v => v.toBinary64
      | .term .. => pure .nan
    return arrange flags width true false (floatText letter flags.explicit (precision.getD 6) x)
  else if letter == 'c' then do
    let c ← characterOf f
    return arrange flags width false false [c]
  else .error (.template (.unsupportedLetter letter position))

/-- The measures of a place: the width, whether the text goes to the left of it, and the
precision. -/
def measures (p : Place) (s : Supply) : Except Fault (Nat × Bool × Option Nat × Supply) := do
  let (width, left, s) ← match p.width with
    | .absent => pure (0, false, s)
    | .count n => pure (n, false, s)
    | .given => do
      let (i, s) ← s.takeCount maxWidth "C ssize_t"
      pure (i.natAbs, i < 0, s)
    | .excessive => throw (.template .widthTooBig)
  match p.precision with
  | .absent => return (width, left, none, s)
  | .count n => return (width, left, some n, s)
  | .given => do
    let (i, s) ← s.takeCount maxPrecision "C int"
    return (width, left, some i.toNat, s)
  | .excessive => throw (.template .precisionTooBig)

/-- The supply of a place: the entry of its key, if it has one. -/
def supplyFor (key : Key) (whole : Filling) (s : Supply) : Except Fault Supply := do
  match key with
  | .absent => return s
  | _ => if !whole.isIndexed then throw (.template .mappingRequired)
  match key with
  | .name key => return ⟨← whole.entry key, false⟩
  | _ => throw (.template .incompleteKey)

def fillPlace (whole : Filling) (s : Supply) (p : Place) : Except Fault (List Char × Supply) := do
  let s ← supplyFor p.key whole s
  let (width, left, precision, s) ← measures p s
  let flags := { p.flags with left := p.flags.left || left }
  let (cs, s) ← match p.letter with
    | none => throw (.template .incomplete)
    | some (letter, position) => do
      let (f, s) ← s.take
      if Fault.maxTextLength < max width (precision.getD 0) then throw .memoryExhausted
      pure (← write flags width precision letter position f, s)
  if whole.isIndexed && !s.used then throw (.template .unusedArguments)
  return (cs, s)

/-- The text of pieces, newest piece of the result first. -/
def fillPieces (whole : Filling) : List Piece → Supply → List (List Char) →
    Except Fault (Supply × List (List Char))
  | [], s, done => .ok (s, done)
  | .literal c :: rest, s, done => fillPieces whole rest s ([c] :: done)
  | .place p :: rest, s, done => do
    let (cs, s) ← fillPlace whole s p
    fillPieces whole rest s (cs :: done)

/-- The text of a template that is filled. All of what fills it has to be used, unless places may
name its entries. -/
def fill (template : String) (whole : Filling) : Except Fault String := do
  let (s, done) ← fillPieces whole (pieces template.toList) ⟨whole, false⟩ []
  if !s.used && !whole.isIndexed then throw (.template .unusedArguments)
  return String.ofList done.reverse.flatten

end Template

end RecordAudit
