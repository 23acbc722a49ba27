import RecordAudit.Comparison
import RecordAudit.Number.Arithmetic
import RecordAudit.Value.Convert

/-!
# Arithmetic on plain values

Integers stay exact; with a floating-point number on either side, or in a quotient, the result is a
floating-point number. Sequences are joined and repeated.
-/

namespace RecordAudit.Value

open Number

/-- The integer that a value is; truth values count as one and zero. -/
def integer? : Value → Option Int
  | .bool b => some (if b then 1 else 0)
  | .int i => some i
  | _ => none

def isNumber : Value → Bool
  | .bool _ | .int _ | .float _ => true
  | _ => false

/-- Arithmetic between floating-point numbers. -/
def realArithmetic (a b : Value) (f : Binary64 → Binary64 → Except Fault Binary64) :
    Except Fault Value := do
  return .float (← f (← a.toBinary64) (← b.toBinary64))

def refuse (symbol : String) (a b : Value) : Except Fault Value :=
  .error (.operand (.notSupported symbol a.fullTypeName b.fullTypeName))

def arithmetic (symbol : String) (onIntegers : Int → Int → Except Fault Value)
    (onReals : Binary64 → Binary64 → Except Fault Binary64) (a b : Value) : Except Fault Value :=
  match a.integer?, b.integer? with
  | some i, some j => onIntegers i j
  | _, _ => if a.isNumber && b.isNumber then realArithmetic a b onReals else refuse symbol a b

/-- Texts and lists are sequences. -/
def isSequence : Value → Bool
  | .text _ | .brokenText _ | .list _ => true
  | _ => false

def add (a b : Value) : Except Fault Value :=
  match a, b with
  | .text s, .text t => .ok (.text (s ++ t))
  | .list xs, .list ys => .ok (.list (xs ++ ys))
  | _, _ =>
    if a.isSequence then .error (.operand (.concatenation a.fullTypeName b.fullTypeName))
    else arithmetic "+" (fun i j => .ok (.int (i + j))) (fun x y => .ok (x.add y)) a b

def sub (a b : Value) : Except Fault Value :=
  arithmetic "-" (fun i j => .ok (.int (i - j))) (fun x y => .ok (x.sub y)) a b

/-- The most items that a sequence may have. -/
def maxItems : Nat := 9223372036854775807

/-- Items so many times; a negative number of times is none. -/
def repeated {α : Type} (times : Int) (items : List α) : Except Fault (List α) :=
  if times < -(maxItems : Int) - 1 || (maxItems : Int) < times then
    .error (.operand .repetitionTooOften)
  else if Fault.maxTextLength < times.toNat * items.length then .error .memoryExhausted
  else if items.isEmpty then .ok []
  else .ok (List.replicate times.toNat items).flatten

def repeatSequence (sequence count : Value) : Except Fault Value :=
  match count.integer?, sequence with
  | none, _ => .error (.operand (.repetition count.fullTypeName))
  | some times, .text s =>
    if times ≤ maxItems && (maxItems : Int) < times * s.length then
      .error (.operand .repeatedTextTooLong)
    else do return .text (String.ofList (← repeated times s.toList))
  | some times, .list xs => do return .list (← repeated times xs)
  | _, v => .ok v

def mul (a b : Value) : Except Fault Value :=
  if a.isSequence then repeatSequence a b
  else if b.isSequence then repeatSequence b a
  else arithmetic "*" (fun i j => .ok (.int (i * j))) (fun x y => .ok (x.mul y)) a b

/-- The quotient of integers; a zero has the sign that the signs of both give it. -/
def divIntegers (i j : Int) : Except Fault Value :=
  if j == 0 then .error (.operand (.divisionByZero "division by zero"))
  else
    let x := Binary64.rounded (decide (i < 0) != decide (j < 0)) ((i : Rat) / (j : Rat))
    if x.isFinite then .ok (.float x) else .error .quotientTooLarge

def div (a b : Value) : Except Fault Value :=
  arithmetic "/" divIntegers
    (fun x y =>
      if y.isZero then .error (.operand (.divisionByZero "float division by zero"))
      else .ok (x.div y)) a b

def mod (a b : Value) : Except Fault Value :=
  arithmetic "%"
    (fun i j =>
      if j == 0 then .error (.operand (.divisionByZero "integer modulo by zero"))
      else .ok (.int (Int.fmod i j)))
    (fun x y =>
      if y.isZero then .error (.operand (.divisionByZero "float modulo")) else .ok (x.mod y)) a b

def neg : Value → Except Fault Value
  | .float x => .ok (.float x.neg)
  | v =>
    match v.integer? with
    | some i => .ok (.int (-i))
    | none => .error (.operand (.signNotSupported v.fullTypeName))

/-- An ordering of values that are no lists: of two texts, or of two numbers. What two objects hold
is not ordered either. -/
def orderScalars (c : Comparison) (a b : Value) : Except Fault Bool :=
  match a, b with
  | .text s, .text t => .ok (c.allows (compareOfLessAndEq s t))
  | .boxed _, .boxed _ => .error (.operand (.notOrdered c.symbol "dict" "dict"))
  | _, _ =>
    match a.magnitude?, b.magnitude? with
    | some m, some n => .ok <|
      match m.lt n, n.lt m, m.eq n with
      | true, _, _ => c.allows .lt
      | _, true, _ => c.allows .gt
      | _, _, true => c.allows .eq
      | _, _, _ => false
    | _, _ => .error (.operand (.notOrdered c.symbol a.fullTypeName b.fullTypeName))

mutual

/-- An ordering of values. Lists are ordered by their first different items. -/
def order (c : Comparison) : Value → Value → Except Fault Bool
  | .list as, .list bs => orderItems c as bs
  | a, b => orderScalars c a b

def orderItems (c : Comparison) : List Value → List Value → Except Fault Bool
  | a :: as, b :: bs => if a.eq b then orderItems c as bs else order c a b
  | as, bs => .ok (c.allows (compareOfLessAndEq as.length bs.length))

end

def compare (c : Comparison) (a b : Value) : Except Fault Value :=
  match c with
  | .eq => .ok (.bool (a.eq b))
  | .ne => .ok (.bool (!a.eq b))
  | _ => do return .bool (← a.order c b)

end RecordAudit.Value
