import RecordAudit.Number.Binary64

/-!
# Arithmetic on binary floating-point numbers

Each operation rounds its exact result once. What has no exact result gives infinity or the value
that is no number.
-/

namespace RecordAudit.Number.Binary64

/-- The sign of a number, also of zero. -/
def isNegative : Binary64 → Bool
  | .finite negative _ _ => negative
  | .infinite negative => negative
  | .nan => false

/-- The number nearest to an exact result, with a given sign if it is zero. -/
def rounded (zeroNegative : Bool) (q : Rat) : Binary64 :=
  if q = 0 then zero zeroNegative else ofRatio (q.num < 0) q.num.natAbs q.den

def add (x y : Binary64) : Binary64 :=
  match x, y, x.toRat?, y.toRat? with
  | _, _, some p, some q => rounded (x.isNegative && y.isNegative) (p + q)
  | .infinite a, .infinite b, _, _ => if a == b then x else .nan
  | .infinite _, .finite .., _, _ => x
  | .finite .., .infinite _, _, _ => y
  | _, _, _, _ => .nan

def sub (x y : Binary64) : Binary64 := x.add y.neg

def mul (x y : Binary64) : Binary64 :=
  let negative := x.isNegative != y.isNegative
  match x.toRat?, y.toRat? with
  | some p, some q => rounded negative (p * q)
  | _, _ =>
    if x.isNaN || y.isNaN || x.isZero || y.isZero then .nan else .infinite negative

/-- The quotient by a number that is not zero. -/
def div (x y : Binary64) : Binary64 :=
  let negative := x.isNegative != y.isNegative
  match x.toRat?, y.toRat? with
  | some p, some q => rounded negative (p / q)
  | _, _ =>
    if x.isNaN || y.isNaN || (!x.isFinite && !y.isFinite) then .nan
    else if y.isFinite then .infinite negative
    else zero negative

/-- The remainder, with the sign of the divisor, by a number that is not zero. -/
def mod (x y : Binary64) : Binary64 :=
  match x.toRat?, y.toRat? with
  | some p, some q => rounded y.isNegative (p - q * (p / q).floor)
  | _, _ =>
    if x.isNaN || y.isNaN || !x.isFinite then .nan
    else if x.isZero then zero y.isNegative
    else if x.isNegative == y.isNegative then x
    else y

end RecordAudit.Number.Binary64
