import RecordAudit.Text.Printable

/-!
# Quoted text

Text shown inside quotation marks. The mark is the apostrophe, unless the text holds an apostrophe
and no double quote. The mark and the backslash are escaped, line feed, carriage return and tab have
a letter, and any other character that is not printable is written by its code point.
-/

namespace RecordAudit.Text

/-- The lower-case hexadecimal digits of `n`, at least `width` of them. -/
def hexDigits (width n : Nat) : List Char :=
  let ds := Nat.toDigits 16 n
  List.replicate (width - ds.length) '0' ++ ds

/-- The escape that writes a character by its code point, in two, four or eight digits. -/
def codePointEscape (n : Nat) : List Char :=
  if n ≤ 0xff then '\\' :: 'x' :: hexDigits 2 n
  else if n ≤ 0xffff then '\\' :: 'u' :: hexDigits 4 n
  else '\\' :: 'U' :: hexDigits 8 n

def quotedChar (mark c : Char) : List Char :=
  if c == mark || c == '\\' then ['\\', c]
  else if c == '\n' then ['\\', 'n']
  else if c == '\r' then ['\\', 'r']
  else if c == '\t' then ['\\', 't']
  else if isPrintable c then [c]
  else codePointEscape c.toNat

/-- The quotation mark that suits the text. -/
def quotationMark (cs : List Char) : Char :=
  if cs.contains '\'' && !cs.contains '"' then '"' else '\''

def quoteChars (cs : List Char) : List Char :=
  let mark := quotationMark cs
  mark :: cs.flatMap (quotedChar mark) ++ [mark]

def quote (s : String) : String := String.ofList (quoteChars s.toList)

/-- Code points between quotation marks; one that is no character is written as such. -/
def quoteCodePoints (codePoints : List Nat) : String :=
  let mark := quotationMark (codePoints.map Char.ofNat)
  let quoted := codePoints.flatMap fun n =>
    if n.isValidChar then quotedChar mark (Char.ofNat n) else codePointEscape n
  String.ofList (mark :: quoted ++ [mark])

end RecordAudit.Text
