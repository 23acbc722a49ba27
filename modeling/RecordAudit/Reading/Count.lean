import RecordAudit.Text.Digit

/-!
# Counts written in running text

A count is the first run of decimal digits anywhere in a text, whatever stands around it.
-/

namespace RecordAudit.Reading

open Text

/-- A longer run of digits is not read. -/
def maxCountDigits : Nat := 4000

/-- The first maximal run of decimal digits, empty when there is no digit. -/
def firstDigitRun (cs : List Char) : List Char :=
  (cs.dropWhile (!isDecimal ·)).takeWhile isDecimal

/-- The first count that a text writes, zero when there is none or its digits are too many. -/
def readCount (raw : Option String) : Int :=
  match raw with
  | none => 0
  | some s =>
    let run := firstDigitRun s.toList
    if run.length ≤ maxCountDigits then digitsValue run else 0

end RecordAudit.Reading
