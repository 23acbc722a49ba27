import RecordAudit.Number.Layout

/-!
# Numerals of limited significance

Products of numerals keep a limited count of significant digits and are rounded once, to the nearest
numeral with that many digits, the even one of two that are equally near.
-/

namespace RecordAudit.Number

/-- The count of significant digits that products keep. -/
def significantDigits : Nat := 28

namespace Numeral

/-- The numeral with at most `digits` significant digits that is nearest to `x`. -/
def roundTo (digits : Nat) (x : Numeral) : Numeral :=
  let excess := digitCount x.coefficient - digits
  { x with
    coefficient := Binary64.roundDiv x.coefficient (Nat.pow 10 excess)
    exponent := x.exponent + excess }

def mulExact (x y : Numeral) : Numeral :=
  ⟨x.negative != y.negative, x.coefficient * y.coefficient, x.exponent + y.exponent⟩

def mul (x y : Numeral) : Numeral := (x.mulExact y).roundTo significantDigits

end Numeral

end RecordAudit.Number
