import RecordAudit.Text.Digit
import RecordAudit.Text.Blank

/-!
# Decimal numerals

A numeral is a sign, a coefficient and an exponent of ten, so it keeps the places that were written:
`1.50` and `1.5` are different numerals with one value. `leadingNumeral?` reads the longest numeral
at the start of a text.
-/

namespace RecordAudit.Number

open Text

/-- A decimal numeral: `± coefficient · 10 ^ exponent`. -/
structure Numeral where
  negative : Bool
  coefficient : Nat
  exponent : Int
  deriving DecidableEq, Repr

/-- The number of decimal digits of `n`; zero has one. -/
def digitCount (n : Nat) : Nat := (Nat.toDigits 10 n).length

def tenPow (e : Int) : Rat :=
  if 0 ≤ e then mkRat (Nat.pow 10 e.toNat) 1 else mkRat 1 (Nat.pow 10 (-e).toNat)

namespace Numeral

def value (x : Numeral) : Rat :=
  let magnitude := (x.coefficient : Rat) * tenPow x.exponent
  if x.negative then -magnitude else magnitude

def leadingExponent (x : Numeral) : Int := x.exponent + digitCount x.coefficient - 1

/-- The greatest exponent of a leading digit that is accepted. -/
def maxLeadingExponent : Int := 999999999999999999

/-- The least exponent of a last digit that is accepted. -/
def minExponent : Int := -1999999999999999997

/-- Whether the exponents lie inside the accepted limits. -/
def withinLimits (x : Numeral) : Bool :=
  minExponent ≤ x.exponent && x.leadingExponent ≤ maxLeadingExponent

end Numeral

/-- An optional sign, and what follows it. -/
def splitSign : List Char → Bool × List Char
  | '-' :: rest => (true, rest)
  | '+' :: rest => (false, rest)
  | rest => (false, rest)

/-- The digits at the start of a text, and what follows them. -/
def splitDigits (cs : List Char) : List Char × List Char :=
  (cs.takeWhile isDecimal, cs.dropWhile isDecimal)

/-- The digits of a numeral without its exponent part. -/
structure Significand where
  whole : List Char
  fraction : List Char
  deriving DecidableEq, Repr

/-- Digits with an optional point and further digits, or a point with digits, and what follows. -/
def splitSignificand? (cs : List Char) : Option (Significand × List Char) :=
  match splitDigits cs with
  | ([], '.' :: rest) =>
    match splitDigits rest with
    | ([], _) => none
    | (fraction, rest) => some (⟨[], fraction⟩, rest)
  | ([], _) => none
  | (whole, '.' :: rest) =>
    let (fraction, rest) := splitDigits rest
    some (⟨whole, fraction⟩, rest)
  | (whole, rest) => some (⟨whole, []⟩, rest)

/-- The letter `e` in either case with an optional sign and digits, and what follows. Anything else
is no exponent part, and is left in place. -/
def splitExponent (cs : List Char) : Int × List Char :=
  match cs with
  | c :: rest =>
    if c == 'e' || c == 'E' then
      let (negative, digits) := splitSign rest
      match splitDigits digits with
      | ([], _) => (0, cs)
      | (ds, rest) => (if negative then -(digitsValue ds : Int) else digitsValue ds, rest)
    else (0, cs)
  | [] => (0, cs)

/-- The longest numeral at the start of a text, and what follows it. -/
def splitNumeral? (cs : List Char) : Option (Numeral × List Char) :=
  let (negative, rest) := splitSign cs
  match splitSignificand? rest with
  | none => none
  | some (significand, rest) =>
    let (exponent, rest) := splitExponent rest
    some (⟨negative, digitsValue (significand.whole ++ significand.fraction),
      exponent - significand.fraction.length⟩, rest)

/-- The longest numeral at the start of a trimmed text, unless its exponent is beyond the limits. -/
def leadingNumeral? (cs : List Char) : Option Numeral :=
  match splitNumeral? (trim cs) with
  | some (x, _) => if x.withinLimits then some x else none
  | none => none

end RecordAudit.Number
