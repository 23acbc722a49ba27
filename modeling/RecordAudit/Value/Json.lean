import RecordAudit.Assoc
import RecordAudit.Number.Binary64
import RecordAudit.Value.Basic

/-!
# Values written as JSON

Besides the standard, a number may be infinite or no number, by the names `Infinity`, `-Infinity`
and `NaN`; and of several entries under one key the last one counts, in the place of the first.
-/

namespace RecordAudit.Json

open Number Text

def skipBlanks (cs : List Char) : List Char :=
  cs.dropWhile fun c => c == ' ' || c == '\t' || c == '\n' || c == '\r'

/-- The text after the given one, if it starts so. -/
def afterWord? (word : String) (cs : List Char) : Option (List Char) :=
  if word.toList.isPrefixOf cs then some (cs.drop word.toList.length) else none

def hexValue? (c : Char) : Option Nat :=
  if c.isDigit then some (c.toNat - 48)
  else if 'a' ≤ c ∧ c ≤ 'f' then some (c.toNat - 87)
  else if 'A' ≤ c ∧ c ≤ 'F' then some (c.toNat - 55)
  else none

/-- The number that four hexadecimal digits write, with the text after them. -/
def readUnit? : List Char → Option (Nat × List Char)
  | a :: b :: c :: d :: rest => do
    let a ← hexValue? a
    let b ← hexValue? b
    let c ← hexValue? c
    let d ← hexValue? d
    return (((a * 16 + b) * 16 + c) * 16 + d, rest)
  | _ => none

/-- The other half of a character that is written in two units. -/
def readLowHalf? (high : Nat) : List Char → Option (Nat × List Char)
  | '\\' :: 'u' :: rest => do
    let (low, rest) ← readUnit? rest
    if 0xd800 ≤ high ∧ high < 0xdc00 ∧ 0xdc00 ≤ low ∧ low < 0xe000 then
      return (0x10000 + (high - 0xd800) * 0x400 + (low - 0xdc00), rest)
    else none
  | _ => none

/-- The code point that is written with a stroke before it, with the text after it. A unit that is
half of a character, without the other half, stands for itself. -/
def readEscape? : List Char → Option (Nat × List Char)
  | 'u' :: rest => do
    let (n, rest) ← readUnit? rest
    match readLowHalf? n rest with
    | some found => return found
    | none => return (n, rest)
  | c :: rest =>
    let plain := [('"', '"'), ('\\', '\\'), ('/', '/'), ('b', '\x08'), ('f', '\x0c'), ('n', '\n'),
      ('r', '\r'), ('t', '\t')]
    (plain.lookup c).map fun c => (c.toNat, rest)
  | [] => none

/-- The code points up to the closing quotation mark, with the text after it. -/
def readCodePoints? : (bound : Nat) → List Char → Option (List Nat × List Char)
  | 0, _ => none
  | _, [] => none
  | _, '"' :: rest => some ([], rest)
  | bound + 1, '\\' :: rest => do
    let (n, rest) ← readEscape? rest
    let (ns, rest) ← readCodePoints? bound rest
    return (n :: ns, rest)
  | bound + 1, c :: rest =>
    if c.toNat < 32 then none
    else do
      let (ns, rest) ← readCodePoints? bound rest
      return (c.toNat :: ns, rest)

/-- The text of code points; halves of characters stay outside of plain texts. -/
def textOf (codePoints : List Nat) : Value :=
  if codePoints.all Nat.isValidChar then .text (String.ofList (codePoints.map Char.ofNat))
  else .brokenText codePoints

/-- The code points as a key, in which the replacement character stands for half of a character. -/
def keyOf (codePoints : List Nat) : String :=
  String.ofList (codePoints.map fun n => if n.isValidChar then Char.ofNat n else '\ufffd')

def splitAsciiDigits (cs : List Char) : List Char × List Char :=
  (cs.takeWhile Char.isDigit, cs.dropWhile Char.isDigit)

def splitFraction (cs : List Char) : List Char × List Char :=
  match cs with
  | '.' :: rest =>
    match splitAsciiDigits rest with
    | ([], _) => ([], cs)
    | found => found
  | _ => ([], cs)

/-- The sign and the digits of an exponent, if there is one. -/
def splitPower? (cs : List Char) : Option (Int × List Char) :=
  match cs with
  | c :: rest =>
    if c == 'e' || c == 'E' then
      let (negative, rest) := match rest with
        | '-' :: rest => (true, rest)
        | '+' :: rest => (false, rest)
        | rest => (false, rest)
      match splitAsciiDigits rest with
      | ([], _) => none
      | (ds, rest) => some (if negative then -(digitsValue ds : Int) else digitsValue ds, rest)
    else none
  | [] => none

/-- A number: an integer where there is neither fraction nor exponent. An integer may not have more
digits than integers are read from. -/
def readNumber? (negative : Bool) (cs : List Char) : Option (Value × List Char) :=
  let (whole, rest) := match cs with
    | '0' :: rest => (['0'], rest)
    | cs => splitAsciiDigits cs
  let (fraction, rest) := splitFraction rest
  let power := splitPower? rest
  let rest := (power.map Prod.snd).getD rest
  if whole.isEmpty then none
  else if fraction.isEmpty && power.isNone then
    if 4300 < whole.length then none
    else some (.int (if negative then -(digitsValue whole : Int) else digitsValue whole), rest)
  else some (.float (.ofNumeral ⟨negative, digitsValue (whole ++ fraction),
    (power.map Prod.fst).getD 0 - fraction.length⟩), rest)

def words : List (String × Value) :=
  [("null", .null), ("true", .bool true), ("false", .bool false), ("NaN", .float .nan),
    ("Infinity", .float (.infinite false)), ("-Infinity", .float (.infinite true))]

mutual

/-- A value at the start of a text, with the text after it. -/
def readValue? : (bound : Nat) → List Char → Option (Value × List Char)
  | 0, _ => none
  | bound + 1, cs =>
    match words.findSome? fun (word, v) => (afterWord? word cs).map fun rest => (v, rest) with
    | some found => some found
    | none =>
      match cs with
      | '"' :: rest => do
        let (codePoints, rest) ← readCodePoints? bound rest
        return (textOf codePoints, rest)
      | '[' :: rest =>
        match skipBlanks rest with
        | ']' :: rest => some (.list [], rest)
        | rest => do
          let (items, rest) ← readItems? bound rest
          return (.list items, rest)
      | '\x7b' :: rest =>
        match skipBlanks rest with
        | '\x7d' :: rest => some (.mapping [], rest)
        | rest => do
          let (entries, rest) ← readEntries? bound [] rest
          return (.mapping entries, rest)
      | '-' :: rest => readNumber? true rest
      | cs => readNumber? false cs

def readItems? : (bound : Nat) → List Char → Option (List Value × List Char)
  | 0, _ => none
  | bound + 1, cs => do
    let (v, rest) ← readValue? bound cs
    match skipBlanks rest with
    | ']' :: rest => return ([v], rest)
    | ',' :: rest =>
      let (items, rest) ← readItems? bound (skipBlanks rest)
      return (v :: items, rest)
    | _ => none

/-- Entries of a mapping up to its end, after those read before. -/
def readEntries? : (bound : Nat) → List (String × Value) → List Char →
    Option (List (String × Value) × List Char)
  | bound + 1, before, '"' :: cs => do
    let (key, rest) ← readCodePoints? bound cs
    match skipBlanks rest with
    | ':' :: rest =>
      let (v, rest) ← readValue? bound (skipBlanks rest)
      let entries := upsert (keyOf key) v before
      match skipBlanks rest with
      | '\x7d' :: rest => return (entries, rest)
      | ',' :: rest => readEntries? bound entries (skipBlanks rest)
      | _ => none
    | _ => none
  | _, _, _ => none

end

/-- The value that a whole text writes. Every step of the reader takes a character, so that the
length of the text bounds their number. -/
def read? (s : String) : Option Value :=
  let cs := skipBlanks s.toList
  match readValue? (2 * cs.length + 1) cs with
  | some (v, rest) => if (skipBlanks rest).isEmpty then some v else none
  | none => none

end RecordAudit.Json
