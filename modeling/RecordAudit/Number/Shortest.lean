import RecordAudit.Number.Binary64

/-!
# Shortest decimals of floating-point numbers

The shortest decimal of a number is taken from the coarsest decimal grid that has a point rounding
back to the number; of several such points the nearest, and of two equally near the one with an even
last digit.
-/

namespace RecordAudit.Number

/-- The numbers that round to a rank, as twice the number of units: an interval around the number,
which holds its ends when the rank is even. -/
structure RoundingInterval where
  low : Nat
  high : Nat
  closed : Bool
  deriving DecidableEq, Repr

def RoundingInterval.ofRank (rank : Nat) : RoundingInterval where
  low := units (rank - 1) + units rank
  high := units rank + units (rank + 1)
  closed := rank % 2 == 0

/-- Whether `num / den` lies in the interval, in half units. -/
def RoundingInterval.contains (r : RoundingInterval) (num den : Nat) : Bool :=
  if r.closed then r.low * den ≤ num && num ≤ r.high * den
  else r.low * den < num && num < r.high * den

/-- The factor between half units and multiples of `10 ^ e`: the point `c · 10 ^ e` stands at
`c * num / den` half units. -/
def gridScale (e : Int) : Nat × Nat :=
  if 0 ≤ e then (Nat.pow 10 e.toNat * Nat.pow 2 1075, 1)
  else (Nat.pow 2 1075, Nat.pow 10 (-e).toNat)

/-- The multiple of `10 ^ e` in the interval that is nearest to `twice` half units, if the interval
holds one. -/
def gridPoint? (r : RoundingInterval) (twice : Nat) (e : Int) : Option Nat :=
  let (num, den) := gridScale e
  let below := twice * den / num
  let above := below + 1
  match r.contains (below * num) den, r.contains (above * num) den with
  | true, true =>
    let toBelow := twice * den - below * num
    let toAbove := above * num - twice * den
    if toBelow < toAbove then some below
    else if toAbove < toBelow then some above
    else if below % 2 == 0 then some below else some above
  | true, false => some below
  | false, true => some above
  | false, false => none

/-- The first point found on the grids `10 ^ e`, `10 ^ (e - 1)`, … . -/
def coarsestPoint (r : RoundingInterval) (twice : Nat) : (grids : Nat) → (e : Int) → Nat × Int
  | 0, e => (0, e)
  | grids + 1, e =>
    match gridPoint? r twice e with
    | some c => (c, e)
    | none => coarsestPoint r twice grids (e - 1)

/-- Coefficient and exponent of the shortest decimal of the number of a positive rank. The finest
grid that is ever needed is `10 ^ -324`. -/
def shortestOfRank (rank : Nat) : Nat × Int :=
  let start := digitCount (units rank / Nat.pow 2 1074)
  coarsestPoint (.ofRank rank) (2 * units rank) (start + 325) start

namespace Binary64

/-- The shortest numeral that rounds to a finite number; zero is written `0`. -/
def shortest? : Binary64 → Option Numeral
  | .finite negative rank _ =>
    if rank == 0 then some ⟨negative, 0, 0⟩
    else
      let (coefficient, exponent) := shortestOfRank rank
      some ⟨negative, coefficient, exponent⟩
  | _ => none

/-- The exact value of the shortest numeral of a finite number. -/
def decimalValue? (x : Binary64) : Option Rat := x.shortest?.map Numeral.value

end Binary64

end RecordAudit.Number
