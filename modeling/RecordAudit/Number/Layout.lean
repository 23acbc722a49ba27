import RecordAudit.Number.Shortest

/-!
# Decimal text of floating-point numbers

`Layout` holds the choices of a decimal format; `plain` is the format in which values are shown.
`fixedText` writes a number with a fixed count of places, rounded from its exact value.
-/

namespace RecordAudit.Number

/-- Where a format changes from positional to exponent notation, and how it writes an exponent. -/
structure Layout where
  /-- The least position of the decimal point, counted from the first digit, written
  positionally. -/
  minPoint : Int
  /-- The greatest such position. -/
  maxPoint : Int
  /-- The least count of digits of an exponent. -/
  exponentWidth : Nat

/-- Positional from `0.0001` up to seventeen digits before the point, exponents of two digits. -/
def Layout.plain : Layout := ⟨-3, 16, 2⟩

def padLeft (width : Nat) (c : Char) (cs : List Char) : List Char :=
  List.replicate (width - cs.length) c ++ cs

/-- The digits `ds` with the point after `point` of them; a whole number keeps one zero after its
point. -/
def positional (ds : List Char) (point : Int) : List Char :=
  if point ≤ 0 then ['0', '.'] ++ List.replicate (-point).toNat '0' ++ ds
  else
    let n := point.toNat
    if n < ds.length then ds.take n ++ '.' :: ds.drop n
    else ds ++ List.replicate (n - ds.length) '0' ++ ['.', '0']

/-- The digits `ds` with the point after the first of them, and an exponent. -/
def scientific (layout : Layout) (ds : List Char) (exponent : Int) : List Char :=
  let mantissa := match ds with
    | [] => []
    | [d] => [d]
    | d :: rest => d :: '.' :: rest
  let sign := if exponent < 0 then '-' else '+'
  mantissa ++ 'e' :: sign :: padLeft layout.exponentWidth '0' (Nat.toDigits 10 exponent.natAbs)

def Layout.render (layout : Layout) (x : Numeral) : List Char :=
  let ds := Nat.toDigits 10 x.coefficient
  let point := ds.length + x.exponent
  if layout.minPoint ≤ point && point ≤ layout.maxPoint then positional ds point
  else scientific layout ds (point - 1)

def signed (negative : Bool) (cs : List Char) : List Char := if negative then '-' :: cs else cs

namespace Binary64

/-- The shortest text that reads back as the number. -/
def toChars (x : Binary64) : List Char :=
  match x, x.shortest? with
  | _, some numeral => signed numeral.negative (Layout.plain.render numeral)
  | .infinite negative, _ => signed negative ['i', 'n', 'f']
  | _, _ => ['n', 'a', 'n']

def text (x : Binary64) : String := String.ofList x.toChars

/-- The quotient rounded to the nearest integer, the even one of two that are equally near. -/
def roundDiv (num den : Nat) : Nat :=
  let q := num / den
  let r := num % den
  if 2 * r < den then q
  else if den < 2 * r then q + 1
  else if q % 2 == 0 then q else q + 1

/-- The number with `places` digits after the point. -/
def fixedText (places : Nat) : Binary64 → String
  | .finite negative rank _ =>
    let n := roundDiv (units rank * Nat.pow 10 places) (Nat.pow 2 1074)
    let ds := padLeft (places + 1) '0' (Nat.toDigits 10 n)
    let cut := ds.length - places
    String.ofList (signed negative (ds.take cut ++ '.' :: ds.drop cut))
  | .infinite negative => String.ofList (signed negative ['i', 'n', 'f'])
  | .nan => "nan"

end Binary64

end RecordAudit.Number
