import RecordAudit.Number.Numeral

/-!
# Binary floating-point numbers of 64 bits

The finite numbers that are not negative are counted from zero upwards: the number of rank `k` is
`units k` times `2 ^ -1074`, and greater ranks are greater numbers. The rank is what the lower 63
bits of the usual representation hold. Rounding picks the rank whose number is nearest, an even rank
when two are equally near, and the rank after the last one stands for infinity.
-/

namespace RecordAudit.Number

/-- The rank that follows the greatest finite number. -/
def infiniteRank : Nat := 2047 * Nat.pow 2 52

/-- A floating-point number; a finite one is given by its sign and rank. -/
inductive Binary64 where
  | finite (negative : Bool) (rank : Nat) (rank_lt : rank < infiniteRank)
  | infinite (negative : Bool)
  | nan
  deriving DecidableEq, Repr

/-- The number of a rank, in units of `2 ^ -1074`. -/
def units (rank : Nat) : Nat :=
  let e := rank / Nat.pow 2 52 - 1
  (rank - e * Nat.pow 2 52) * Nat.pow 2 e

/-- The greatest rank whose number is at most `u` units. -/
def floorRank (u : Nat) : Nat :=
  let e := Nat.log2 u - 52
  e * Nat.pow 2 52 + u / Nat.pow 2 e

/-- The rank nearest to `num / den` units, the even one of two that are equally near. -/
def nearestRank (num den : Nat) : Nat :=
  let k := floorRank (num / den)
  let twice := 2 * num
  let middle := den * (units k + units (k + 1))
  if twice < middle then k
  else if middle < twice then k + 1
  else if k % 2 == 0 then k else k + 1

namespace Binary64

/-- The number of a rank, infinite from `infiniteRank` on. -/
def ofRank (negative : Bool) (rank : Nat) : Binary64 :=
  if h : rank < infiniteRank then .finite negative rank h else .infinite negative

def zero (negative : Bool) : Binary64 := .finite negative 0 (by decide)

def ofRatio (negative : Bool) (num den : Nat) : Binary64 :=
  ofRank negative (nearestRank (num * Nat.pow 2 1074) den)

/-- The number nearest to a rational; zero is positive. -/
def ofRat (q : Rat) : Binary64 := ofRatio (q.num < 0) q.num.natAbs q.den

/-- A numeral above this power of ten is infinite, and one below its reciprocal is zero. -/
def decimalExponentBound : Int := 400

/-- The number nearest to a numeral, with the sign of the numeral. -/
def ofNumeral (x : Numeral) : Binary64 :=
  if x.coefficient == 0 then zero x.negative
  else if decimalExponentBound < x.leadingExponent then .infinite x.negative
  else if x.leadingExponent < -decimalExponentBound then zero x.negative
  else if 0 ≤ x.exponent then ofRatio x.negative (x.coefficient * Nat.pow 10 x.exponent.toNat) 1
  else ofRatio x.negative x.coefficient (Nat.pow 10 (-x.exponent).toNat)

def ofInt (i : Int) : Binary64 := ofRatio (i < 0) i.natAbs 1

def toRat? : Binary64 → Option Rat
  | .finite negative rank _ =>
    let magnitude := mkRat (units rank) (Nat.pow 2 1074)
    some (if negative then -magnitude else magnitude)
  | _ => none

def isFinite : Binary64 → Bool
  | .finite .. => true
  | _ => false

def isNaN : Binary64 → Bool
  | .nan => true
  | _ => false

def isZero : Binary64 → Bool
  | .finite _ rank _ => rank == 0
  | _ => false

/-- The place of a number in the order, in which both zeros stand at the same place; a number that
is not one has no place. -/
def orderKey? : Binary64 → Option Int
  | .finite negative rank _ => some (if negative then -(rank : Int) else rank)
  | .infinite negative => some (if negative then -(infiniteRank : Int) else infiniteRank)
  | .nan => none

/-- Comparison in which nothing holds of a number that is not one. -/
def compareBy (holds : Int → Int → Bool) (x y : Binary64) : Bool :=
  match x.orderKey?, y.orderKey? with
  | some a, some b => holds a b
  | _, _ => false

def le (x y : Binary64) : Bool := compareBy (fun a b => a ≤ b) x y

def lt (x y : Binary64) : Bool := compareBy (fun a b => a < b) x y

/-- Numerical equality: zeros of both signs are equal, and nothing equals a number that is not
one. -/
def eq (x y : Binary64) : Bool := compareBy (fun a b => a == b) x y

def neg : Binary64 → Binary64
  | .finite negative rank h => .finite (!negative) rank h
  | .infinite negative => .infinite (!negative)
  | .nan => .nan

def truncate? : Binary64 → Option Int
  | .finite negative rank _ =>
    let magnitude : Int := units rank / Nat.pow 2 1074
    some (if negative then -magnitude else magnitude)
  | _ => none

end Binary64

end RecordAudit.Number
