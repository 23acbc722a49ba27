import RecordAudit.Calendar.Day
import RecordAudit.Text.Blank
import RecordAudit.Text.Digit

/-!
# Spellings of dates

A spelling is a list of pieces. The pieces are matched from left to right, each in its first form
that lets the rest match, and the whole text has to be used up. The first spelling that gives a date
of the calendar is the one that counts.
-/

namespace RecordAudit.Calendar

open Text

inductive Piece where
  /-- Four digits. -/
  | year
  /-- One or two digits of a month. -/
  | month
  /-- One or two digits of a day, or a blank and one digit. -/
  | day
  /-- The full name of a month, in any letter case. -/
  | monthName
  /-- The first three letters of the name of a month, in any letter case. -/
  | monthShort
  /-- One blank. -/
  | gap
  /-- The character itself. -/
  | mark (c : Char)
  deriving DecidableEq, Repr

abbrev Spelling := List Piece

/-- The accepted spellings, in the order in which they are tried. -/
def spellings : List Spelling :=
  [[.year, .mark '-', .month, .mark '-', .day],
   [.year, .mark '/', .month, .mark '/', .day],
   [.month, .mark '/', .day, .mark '/', .year],
   [.day, .mark '.', .month, .mark '.', .year],
   [.monthName, .gap, .day, .mark ',', .gap, .year],
   [.monthShort, .gap, .day, .mark ',', .gap, .year],
   [.monthName, .gap, .day, .gap, .year],
   [.monthShort, .gap, .day, .gap, .year],
   [.day, .gap, .monthName, .gap, .year],
   [.day, .gap, .monthShort, .gap, .year]]

def monthNames : List String :=
  ["january", "february", "march", "april", "may", "june", "july", "august", "september",
   "october", "november", "december"]

/-- What follows `name` at the start of a text, when letter case is ignored. -/
def dropName? : (name : List Char) → List Char → Option (List Char)
  | [], rest => some rest
  | _ :: _, [] => none
  | n :: name, c :: rest => if c.toLower == n then dropName? name rest else none

/-- The months whose name, cut to `letters` letters, begins a text. -/
def matchMonths (letters : Nat) (cs : List Char) : List (Nat × List Char) :=
  (monthNames.zipIdx 1).filterMap fun (name, month) =>
    (dropName? (name.toList.take letters) cs).map (month, ·)

def matchYear : List Char → List (Nat × List Char)
  | a :: b :: c :: d :: rest =>
    if [a, b, c, d].all isDecimal then [(digitsValue [a, b, c, d], rest)] else []
  | _ => []

/-- The value of a digit of the range from `low` to `high`, of the digits `0` to `9` alone. -/
def digitIn? (low high : Nat) (c : Char) : Option Nat :=
  let v := c.toNat - 48
  if 48 ≤ c.toNat && low ≤ v && v ≤ high then some v else none

/-- Two digits, the first of them `tens` and the second accepted by `ones?`. -/
def matchTwo (tens : Nat) (ones? : Char → Option Nat) : List Char → List (Nat × List Char)
  | a :: b :: rest =>
    match digitIn? tens tens a, ones? b with
    | some _, some v => [(10 * tens + v, rest)]
    | _, _ => []
  | _ => []

/-- One digit other than zero. -/
def matchOne : List Char → List (Nat × List Char)
  | a :: rest => ((digitIn? 1 9 a).map (·, rest)).toList
  | [] => []

def matchMonth (cs : List Char) : List (Nat × List Char) :=
  matchTwo 1 (digitIn? 0 2) cs ++ matchTwo 0 (digitIn? 1 9) cs ++ matchOne cs

def matchDay (cs : List Char) : List (Nat × List Char) :=
  matchTwo 3 (digitIn? 0 1) cs ++ matchTwo 1 digitValue? cs ++ matchTwo 2 digitValue? cs ++
    matchTwo 0 (digitIn? 1 9) cs ++ matchOne cs ++
    match cs with
    | ' ' :: rest => matchOne rest
    | _ => []

/-- The ways in which a piece begins a text: what becomes of the date, and what follows. -/
def Piece.matches (p : Piece) (date : Date) (cs : List Char) : List (Date × List Char) :=
  match p with
  | .year => (matchYear cs).map fun (v, rest) => ({ date with year := v }, rest)
  | .month => (matchMonth cs).map fun (v, rest) => ({ date with month := v }, rest)
  | .day => (matchDay cs).map fun (v, rest) => ({ date with day := v }, rest)
  | .monthName => (matchMonths 9 cs).map fun (v, rest) => ({ date with month := v }, rest)
  | .monthShort => (matchMonths 3 cs).map fun (v, rest) => ({ date with month := v }, rest)
  | .gap =>
    match cs with
    | c :: rest => if isBlank c then [(date, rest)] else []
    | [] => []
  | .mark m =>
    match cs with
    | c :: rest => if c == m then [(date, rest)] else []
    | [] => []

/-- The ways in which a spelling begins a text, the preferred one first. -/
def matchSpelling : Spelling → Date → List Char → List (Date × List Char)
  | [], date, cs => [(date, cs)]
  | p :: ps, date, cs =>
    (p.matches date cs).flatMap fun (date, rest) => matchSpelling ps date rest

/-- The date that a text spells in one spelling. Only the preferred way counts: it has to use up the
text and to give a date of the calendar. -/
def Spelling.read? (s : Spelling) (cs : List Char) : Option Date :=
  match matchSpelling s ⟨1900, 1, 1⟩ cs with
  | (date, []) :: _ => if date.isValid then some date else none
  | _ => none

/-- The first ten characters, when a dash stands fifth and the eleventh begins a time of day. -/
def dropTime (cs : List Char) : List Char :=
  if 10 < cs.length && cs[4]? == some '-' && (cs[10]? == some 'T' || cs[10]? == some ' ') then
    cs.take 10
  else cs

/-- The date that a text spells. -/
def readDate? (cs : List Char) : Option Date :=
  let text := dropTime (collapseBlanks cs)
  spellings.findSome? fun s => Spelling.read? s text

def readDay (raw : Option String) : Int :=
  match raw.bind fun s => readDate? s.toList with
  | some date => date.dayNumber
  | none => 0

end RecordAudit.Calendar
