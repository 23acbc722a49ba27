import RecordAudit.Number.Binary64
import RecordAudit.Text.Lowercase

/-!
# Reading whole texts as numbers

A text is a number when, blanks around it and low lines between digits aside, it is one whole
numeral. Floating-point texts may also name infinity and the value that is no number.
-/

namespace RecordAudit.Number

open Text

/-- The text without its low lines, provided each stands between two digits. -/
def dropLowLines? : (previousIsDigit : Bool) → List Char → Option (List Char)
  | _, [] => some []
  | before, '_' :: rest =>
    match before, rest with
    | true, c :: _ => if isDecimal c then dropLowLines? false rest else none
    | _, _ => none
  | _, c :: rest => (dropLowLines? (isDecimal c) rest).map (c :: ·)

/-- The number named by a whole text: infinity, the value that is no number, or a numeral. -/
def readUnsigned? (negative : Bool) (cs : List Char) : Option Binary64 :=
  let word := String.ofList (cs.map Char.toLower)
  if word == "inf" || word == "infinity" then some (.infinite negative)
  else if word == "nan" then some .nan
  else match splitSignificand? cs with
    | none => none
    | some (significand, rest) =>
      match splitExponent rest with
      | (exponent, []) =>
        some (.ofNumeral ⟨negative, digitsValue (significand.whole ++ significand.fraction),
          exponent - significand.fraction.length⟩)
      | _ => none

/-- The floating-point number that a whole text writes. -/
def readBinary64? (cs : List Char) : Option Binary64 :=
  match dropLowLines? false (trimNumber cs) with
  | none => none
  | some cs =>
    let (negative, rest) := splitSign cs
    readUnsigned? negative rest

/-- Why a text writes no integer. -/
inductive IntegerDefect where
  | malformed
  | tooManyDigits (count : Nat)
  deriving DecidableEq, Repr

/-- The integer that a whole text writes in at most so many digits. Digits that are too many are a
defect of their own, whatever follows them. -/
def readInteger (maxDigits : Nat) (cs : List Char) : Except IntegerDefect Int :=
  let (negative, rest) := splitSign (cs.dropWhile isNumberBlank)
  let inRun := fun c => isDecimal c || c == '_'
  match dropLowLines? false (rest.takeWhile inRun) with
  | none | some [] => .error .malformed
  | some digits =>
    if maxDigits < digits.length then .error (.tooManyDigits digits.length)
    else if (rest.dropWhile inRun).all isNumberBlank then
      .ok (if negative then -(digitsValue digits : Int) else digitsValue digits)
    else .error .malformed

end RecordAudit.Number
