import RecordAudit.Text.Ranges

/-!
# Decimal digits of every script

A decimal digit of any script has a value below ten; the ten digits of a script stand at ten
consecutive code points, in order. Superscript, circled and similar figures are digits of the wider
class `isFigure`, without being usable in numerals.
-/

namespace RecordAudit.Text

/-- The code points of the zeros: each begins a block of ten decimal digits. -/
def zeroDigits : List Nat :=
  [48, 1632, 1776, 1984, 2406, 2534, 2662, 2790, 2918, 3046, 3174, 3302, 3430, 3558, 3664,
   3792, 3872, 4160, 4240, 6112, 6160, 6470, 6608, 6784, 6800, 6992, 7088, 7232, 7248, 42528,
   43216, 43264, 43472, 43504, 43600, 44016, 65296, 66720, 68912, 69734, 69872, 69942, 70096,
   70384, 70736, 70864, 71248, 71360, 71472, 71904, 72016, 72784, 73040, 73120, 92768, 92864,
   93008, 120782, 120792, 120802, 120812, 120822, 123200, 123632, 125264, 130032]

def digitValue? (c : Char) : Option Nat :=
  (zeroDigits.find? fun z => z ≤ c.toNat && c.toNat < z + 10).map (c.toNat - ·)

/-- Whether the character is a decimal digit of some script. -/
def isDecimal (c : Char) : Bool := (digitValue? c).isSome

/-- Figures that are not decimal digits: superscripts, subscripts, circled and bracketed ones. -/
def otherFigureRanges : List (Nat × Nat) :=
  [(178, 179), (185, 185), (4969, 4977), (6618, 6618), (8304, 8304), (8308, 8313),
   (8320, 8329), (9312, 9320), (9332, 9340), (9352, 9360), (9450, 9450), (9461, 9469),
   (9471, 9471), (10102, 10110), (10112, 10120), (10122, 10130), (68160, 68163),
   (69216, 69224), (69714, 69722), (127232, 127242)]

/-- Whether the character is a digit in the wide sense: decimal, or a styled figure. -/
def isFigure (c : Char) : Bool := isDecimal c || inRanges otherFigureRanges c.toNat

/-- The number that a run of digits writes, most significant digit first; a character that is no
digit counts as zero. -/
def digitsValue (cs : List Char) : Nat :=
  cs.foldl (fun n c => 10 * n + (digitValue? c).getD 0) 0

theorem digitValue?_lt {c : Char} {v : Nat} (h : digitValue? c = some v) : v < 10 := by
  obtain ⟨z, hz, rfl⟩ := Option.map_eq_some_iff.1 h
  have := List.find?_some hz
  simp only [Bool.and_eq_true, decide_eq_true_eq] at this
  omega

end RecordAudit.Text
