import RecordAudit.Fault
import RecordAudit.Number.Reading

/-!
# Conversion of values to numbers

Values become floating-point numbers, integers and the exact fractions of their decimal text.
-/

namespace RecordAudit.Value

open Number

/-- The floating-point number of a value: numbers are rounded, texts are read. -/
def toBinary64 : Value → Except Fault Binary64
  | .bool b => .ok (.ofInt (if b then 1 else 0))
  | .int i =>
    let x := Binary64.ofInt i
    if x.isFinite then .ok x else .error .integerTooLargeForFloat
  | .float x => .ok x
  | .text s =>
    match readBinary64? s.toList with
    | some x => .ok x
    | none => .error (.notANumber s)
  | v => .error (.noFloatFrom v)

/-- The integer of a value: numbers lose their fraction, texts are read. -/
def toInt : Value → Except Fault Int
  | .bool b => .ok (if b then 1 else 0)
  | .int i => .ok i
  | .float x =>
    match x, x.truncate? with
    | _, some i => .ok i
    | .nan, _ => .error .nanToInteger
    | _, _ => .error .infinityToInteger
  | .text s =>
    match readInteger Fault.maxIntegerDigits s.toList with
    | .ok i => .ok i
    | .error .malformed => .error (.notAnInteger s)
    | .error (.tooManyDigits count) => .error (.tooManyDigits count)
  | v => .error (.noIntegerFrom v)

/-- Whether the decimal text of an integer would be too long to be written. -/
def isLongInteger (i : Int) : Bool := Nat.pow 10 Fault.maxIntegerDigits ≤ i.natAbs

mutual

/-- Whether an integer in the value is too long to be written. -/
def hasLongInteger : Value → Bool
  | .int i => isLongInteger i
  | .list items => hasLongIntegerItems items
  | .mapping entries => hasLongIntegerEntries entries
  | .boxed content => hasLongInteger content
  | _ => false

def hasLongIntegerItems : List Value → Bool
  | [] => false
  | v :: rest => hasLongInteger v || hasLongIntegerItems rest

def hasLongIntegerEntries : List (String × Value) → Bool
  | [] => false
  | (_, v) :: rest => hasLongInteger v || hasLongIntegerEntries rest

end

/-- The fraction that the shortest decimal text of the value, as a floating-point number, writes. -/
def toFraction (v : Value) : Except Fault Rat := do
  let x ← v.toBinary64
  match x.decimalValue? with
  | some q => .ok q
  | none => .error (.notAFraction x)

/-- A number with so many digits after the point. -/
def fixed (places : Nat) (v : Value) : Except Fault String :=
  match v with
  | .bool _ | .int _ | .float _ => v.toBinary64.map (·.fixedText places)
  | _ => .error (.noFixedText v)

end RecordAudit.Value
