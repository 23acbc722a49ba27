import RecordAudit.Number.Significance

/-!
# Amounts written in running text

An amount such as `$1,000`, `1.5M`, `250k` or `15%` is read after its separators, blanks and
currency signs are dropped. One scale letter or percent sign at the end scales the numeral at the
start; other text after the numeral is ignored. Text without a numeral, and an amount beyond the
finite numbers, read as zero.
-/

namespace RecordAudit.Reading

open Text Number

/-- Thousands separators, blanks and currency signs, which amounts may hold anywhere. -/
def isAmountFiller (c : Char) : Bool :=
  isBlank c || [',', '$', '€', '£', '¥', '₹'].contains c

/-- The text of an amount without its fillers. -/
def stripAmount (cs : List Char) : List Char := cs.filter (!isAmountFiller ·)

/-- The factor that the last character of an amount stands for. -/
inductive Scale where
  | one
  | million
  | thousand
  | percent
  deriving DecidableEq, Repr

namespace Scale

/-- The scale that a suffix character names. -/
def ofChar? : Char → Option Scale
  | 'M' | 'm' => some .million
  | 'K' | 'k' => some .thousand
  | '%' => some .percent
  | _ => none

/-- The factor as a numeral. -/
def factor : Scale → Numeral
  | .one => ⟨false, 1, 0⟩
  | .million => ⟨false, 1000000, 0⟩
  | .thousand => ⟨false, 1000, 0⟩
  | .percent => ⟨false, 1, -2⟩

end Scale

/-- Splits one scale suffix off the end of a text. -/
def splitScale (cs : List Char) : List Char × Scale :=
  match cs.getLast?.bind Scale.ofChar? with
  | some scale => (cs.dropLast, scale)
  | none => (cs, .one)

/-- The scaled numeral of an amount, if its text begins with a numeral. -/
def scaledNumeral? (cs : List Char) : Option Numeral :=
  let (digits, scale) := splitScale (stripAmount cs)
  (leadingNumeral? digits).map (·.mul scale.factor)

/-- The amount that a text writes, zero when there is none. -/
def readAmount (raw : Option String) : Binary64 :=
  match raw.bind fun s => scaledNumeral? s.toList with
  | none => .zero false
  | some x =>
    let amount := Binary64.ofNumeral x
    if amount.isFinite then amount else .zero false

end RecordAudit.Reading
