import RecordAudit.Number.Layout

/-!
# Decimal text of a given precision

A finite number is written with a given count of digits, rounded once from its exact value.
`NumberForm` says where the point stands and whether there is an exponent.
-/

namespace RecordAudit.Number

inductive NumberForm where
  /-- So many digits after the point. -/
  | fixed
  /-- One digit before the point, so many after it, and an exponent. -/
  | scientific
  /-- So many significant digits, with an exponent where the point would be far from them. -/
  | general
  deriving DecidableEq, Repr

namespace Binary64

/-- The exponent of the leading digit of `num / den`, which is not zero. -/
def leadingExponentOf (num den : Nat) : Int :=
  if den ≤ num then digitCount (num / den) - 1
  else
    let d := digitCount (den / num)
    if num * Nat.pow 10 (d - 1) < den then -(d : Int) else -((d : Int) - 1)

/-- So many significant digits of `num / den`, rounded, with the exponent of the first. -/
def significantDigitsOf (count num den : Nat) : List Char × Int :=
  if num == 0 then (List.replicate count '0', 0)
  else
    let e := leadingExponentOf num den
    let shift : Int := (count : Int) - 1 - e
    let n :=
      if 0 ≤ shift then roundDiv (num * Nat.pow 10 shift.toNat) den
      else roundDiv num (den * Nat.pow 10 (-shift).toNat)
    let ds := Nat.toDigits 10 n
    -- rounding up may have given one digit more
    if count < ds.length then (ds.take count, e + 1) else (ds, e)

def fractionPart (keepZeros keepPoint : Bool) (ds : List Char) : List Char :=
  let ds := if keepZeros then ds else (ds.reverse.dropWhile (· == '0')).reverse
  if ds.isEmpty && !keepPoint then [] else '.' :: ds

/-- The digits of `num / den` with so many after the point. -/
def fixedDigits (keepZeros keepPoint : Bool) (places num den : Nat) : List Char :=
  let n := roundDiv (num * Nat.pow 10 places) den
  let ds := padLeft (places + 1) '0' (Nat.toDigits 10 n)
  let cut := ds.length - places
  ds.take cut ++ fractionPart keepZeros keepPoint (ds.drop cut)

/-- One digit before the point, the others after it, and the exponent in two digits or more. -/
def scientificDigits (keepZeros keepPoint : Bool) (ds : List Char) (exponent : Int) : List Char :=
  let sign := if exponent < 0 then '-' else '+'
  ds.take 1 ++ fractionPart keepZeros keepPoint (ds.drop 1) ++
    'e' :: sign :: padLeft 2 '0' (Nat.toDigits 10 exponent.natAbs)

/-- The digits of `num / den` in a notation; the point is kept where nothing follows it when that is
asked for, and then zeros are kept as well. -/
def formDigits (form : NumberForm) (keepPoint : Bool) (precision num den : Nat) : List Char :=
  match form with
  | .fixed => fixedDigits true keepPoint precision num den
  | .scientific =>
    let (ds, e) := significantDigitsOf (precision + 1) num den
    scientificDigits true keepPoint ds e
  | .general =>
    let count := max precision 1
    let (ds, e) := significantDigitsOf count num den
    if e < -4 || (count : Int) ≤ e then scientificDigits keepPoint keepPoint ds e
    else fixedDigits keepPoint keepPoint ((count : Int) - 1 - e).toNat num den

/-- The number in a notation, with a sign if it is negative. -/
def precisionText (form : NumberForm) (keepPoint : Bool) (precision : Nat) : Binary64 → List Char
  | .finite negative rank _ =>
    signed negative (formDigits form keepPoint precision (units rank) (Nat.pow 2 1074))
  | .infinite negative => signed negative ['i', 'n', 'f']
  | .nan => ['n', 'a', 'n']

end Binary64

end RecordAudit.Number
