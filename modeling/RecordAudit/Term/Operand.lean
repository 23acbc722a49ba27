import RecordAudit.Term.Display
import RecordAudit.Value.Arithmetic
import RecordAudit.Value.Template

/-!
# Operands

An operand is a typed expression or a plain value that has no sort yet. Where two operands meet they
take a common sort: truth values count as one and zero among numbers, integers become real among
reals, and a plain value takes the sort of the other operand.
-/

namespace RecordAudit

open Number Text

inductive Operand where
  | value (v : Value)
  | expr (s : VariableSort) (e : Expr s)

namespace Operand

def typeName : Operand → String
  | .value v => v.fullTypeName
  | .expr .bool _ => "BoolRef"
  | .expr (.numeric _) _ => "ArithRef"
  | .expr .text _ => "SeqRef"

def fail {α : Type} (fault : OperandFault) : Except Fault α := .error (.operand fault)

/-! ## Literals -/

/-- Characters that a number given as text may hold. -/
def isNumeralChar (c : Char) : Bool :=
  c.isDigit || ['/', '-', ' ', '\n', '.', 'e', 'E', '+'].contains c

/-- The number that the digits among some characters write. -/
def digitsAmong (cs : List Char) : Nat := digitsValue (cs.filter Char.isDigit)

/-- The number given as text: a whole part, a fraction after a point or a denominator after a
stroke, and an exponent of ten. A stroke and an exponent do not go together. -/
def readNumeral (cs : List Char) : Except OperandFault Rat :=
  if !cs.all isNumeralChar then .error .unreadableLiteral
  else
    let negative := (cs.dropWhile (· == ' ')).head? == some '-'
    let isExponentMark := fun c : Char => c == 'e' || c == 'E'
    let significand := cs.takeWhile (!isExponentMark ·)
    let isMark := fun c : Char => c == '/' || c == '.'
    let fractional := significand.dropWhile (!isMark ·)
    let exponentPart := cs.dropWhile (!isExponentMark ·)
    if exponentPart.contains '/' || (!exponentPart.isEmpty && fractional.head? == some '/') then
      .error .mixedNotation
    else
      let exponentText := exponentPart.drop 1
      let exponent : Int :=
        if exponentText.head? == some '-' then -(digitsAmong exponentText : Int)
        else digitsAmong exponentText
      let whole := significand.takeWhile (!isMark ·)
      let magnitude : Except OperandFault Rat := match fractional with
        | '/' :: denominator =>
          if digitsAmong denominator == 0 then .error .zeroDenominator
          else .ok (mkRat (digitsAmong whole) (digitsAmong denominator))
        | _ :: fraction =>
          .ok (mkRat (digitsAmong (whole ++ fraction))
            (Nat.pow 10 (fraction.filter Char.isDigit).length))
        | [] => .ok (digitsAmong whole)
      magnitude.map fun m => (if negative then -m else m) * tenPow exponent

/-- A plain value as a number of a sort. Integers are handed on as text, which must not be too
long. -/
def literal (n : Numeric) (v : Value) : Except Fault n.Carrier :=
  if v.hasLongInteger then .error .integerTextTooLong
  else match n, v with
  | .int, .bool b => .ok (if b then 1 else 0)
  | .int, .float _ => v.toInt
  | n, .int i => .ok (n.ofInt i)
  | .real, .float x =>
    match x.decimalValue? with
    | some q => .ok q
    | none => fail .unreadableLiteral
  | n, .text s =>
    match n, readNumeral s.toList with
    | .real, .ok q => .ok q
    | .int, .ok q => if q.den == 1 then .ok q.num else fail .integerLiteralExpected
    | _, .error fault => fail fault
  | _, _ => fail .unreadableLiteral

def ofLiteral (v : Value) : Except Fault Operand :=
  match v with
  | .bool b => .ok (.expr .bool (.const b))
  | .int _ => do return .expr .int (.const (s := .int) (← literal .int v))
  | .float _ => do return .expr .real (.const (s := .real) (← literal .real v))
  | .text s => .ok (.expr .text (.const (s := .text) s))
  | _ => fail .literalExpected

/-! ## Common sorts -/

/-- A truth value counted as one or zero. -/
def indicator (n : Numeric) (e : Expr .bool) : Expr (.numeric n) :=
  .ite e (.const (n.ofInt 1)) (.const (n.ofInt 0))

def toBool : Operand → Except Fault (Expr .bool)
  | .value (.bool b) => .ok (.const b)
  | .value v =>
    if v.hasLongInteger then .error .integerTextTooLong else fail (.truthExpected v)
  | .expr .bool e => .ok e
  | .expr _ _ => fail .notATruthValue

def toNumeric (n : Numeric) : Operand → Except Fault (Expr (.numeric n))
  | .value v => do return .const (s := .numeric n) (← literal n v)
  | .expr .bool e => .ok (indicator n e)
  | .expr (.numeric m) e =>
    match m, n, e with
    | .int, .int, e | .real, .real, e => .ok e
    | .int, .real, e => .ok (.toReal e)
    | .real, .int, _ => fail .sortMismatch
  | .expr .text _ => fail .sortMismatch

def toText : Operand → Except Fault (Expr .text)
  | .value _ => fail .expressionExpected
  | .expr .text e => .ok e
  | .expr _ _ => fail .sortMismatch

/-- The sort that is common to two sorts; texts have none with other sorts. -/
def joinSorts : VariableSort → VariableSort → Except Fault VariableSort
  | .text, .text => .ok .text
  | .text, _ | _, .text => fail .sortMismatch
  | .bool, s => .ok s
  | s, .bool => .ok s
  | .numeric .int, s => .ok s
  | .numeric .real, _ => .ok .real

/-- Two operands of a common sort. -/
inductive Pair where
  | bools (a b : Expr .bool)
  | numerics (n : Numeric) (a b : Expr (.numeric n))
  | texts (a b : Expr .text)

def pairIn (s : VariableSort) (a b : Operand) : Except Fault Pair :=
  match s with
  | .bool => do
    let a ← a.toBool
    let b ← b.toBool
    return .bools a b
  | .numeric n => do
    let a ← a.toNumeric n
    let b ← b.toNumeric n
    return .numerics n a b
  | .text => do
    let a ← a.toText
    let b ← b.toText
    return .texts a b

/-- The sort that a plain value makes of a sort that it meets: a floating-point number makes
integers real. -/
def meetLiteral (s : VariableSort) : Value → VariableSort
  | .float _ => if s == .int then .real else s
  | _ => s

/-- The two operands in their common sort. A text that meets a term for texts becomes one. -/
def pair (a b : Operand) : Except Fault Pair :=
  match a, b with
  | .expr s _, .expr t _ => do pairIn (← joinSorts s t) a b
  | .expr .text e, .value (.text t) => .ok (.texts e (.const (s := .text) t))
  | .value (.text t), .expr .text e => .ok (.texts (.const (s := .text) t) e)
  | .expr s _, .value v => pairIn (meetLiteral s v) a b
  | .value v, .expr s _ => pairIn (meetLiteral s v) a b
  | .value v, .value w => do
    match ← ofLiteral v, ← ofLiteral w with
    | .expr s x, .expr t y => do pairIn (← joinSorts s t) (.expr s x) (.expr t y)
    | _, _ => fail .literalExpected

/-- The two operands in a common sort of numbers. -/
def numericPair {α : Type} (a b : Operand)
    (f : (n : Numeric) → Expr (.numeric n) → Expr (.numeric n) → Except Fault α) :
    Except Fault α := do
  match ← pair a b with
  | .numerics n a b => f n a b
  | .bools a b => f .int (indicator .int a) (indicator .int b)
  | .texts _ _ => fail .sortMismatch

/-! ## Operations -/

def isNumeric : Operand → Bool
  | .expr (.numeric _) _ => true
  | _ => false

def arithSymbol : ArithOp → String
  | .add => "+"
  | .sub => "-"
  | .mul => "*"
  | .div => "/"

def valueArith : ArithOp → Value → Value → Except Fault Value
  | .add => Value.add
  | .sub => Value.sub
  | .mul => Value.mul
  | .div => Value.div

/-- A truth value times an operand: the operand, or zero. -/
def scaled (factor : Expr .bool) (a : Operand) : Except Fault Operand := do
  match ← pair a (.value (.int 0)) with
  | .numerics n a zero => return .expr (.numeric n) (.ite factor a zero)
  | .bools a zero => return .expr .bool (.ite factor a zero)
  | .texts a zero => return .expr .text (.ite factor a zero)

/-- A truth value times a plain value; by one and zero the product is simpler. -/
def scaledValue (factor : Expr .bool) (v : Value) : Except Fault Operand :=
  match v.integer? with
  | some 1 => .ok (.expr .int (indicator .int factor))
  | some 0 => .ok (.expr .int (.const (s := .int) 0))
  | _ => scaled factor (.value v)

def arithInCommon (op : ArithOp) (a b : Operand) : Except Fault Operand :=
  numericPair a b fun n a b => .ok (.expr (.numeric n) (.arith op a b))

/-- An operand as a text that can be joined to others. -/
def toSequence : Operand → Except Fault (Expr .text)
  | .value (.text s) => .ok (.const (s := .text) s)
  | .expr .text e => .ok e
  | .value _ => fail .sequenceExpected
  | .expr _ _ => fail .sequenceSortExpected

/-- The texts that two operands join to, one of which is a term for texts. -/
def concat (a b : Operand) : Except Fault Operand :=
  match a with
  | .value (.text _) | .expr .text _ =>
    do return .expr .text (.concat (← a.toSequence) (← b.toSequence))
  | _ => fail .bitVectorsExpected

/-- Sum, difference, product or quotient. -/
def arith (op : ArithOp) (a b : Operand) : Except Fault Operand :=
  let refuse := fail (.notSupported (arithSymbol op) a.typeName b.typeName)
  match op, a, b with
  | op, .value v, .value w => do return .value (← valueArith op v w)
  | .mul, .expr .bool e, .expr .bool f => scaled e (.expr .int (indicator .int f))
  | .mul, .expr .bool e, .value v => scaledValue e v
  | .mul, .value v, .expr .bool e => scaledValue e v
  | .mul, .expr .bool e, b => scaled e b
  | .mul, a, .expr .bool e => scaled e a
  | .mul, .value v, .expr .text _ | .mul, .expr .text _, .value v =>
    if v.isSequence then fail (.repetition "SeqRef") else refuse
  | .add, .expr .bool e, b => arithInCommon .add (.expr .int (indicator .int e)) b
  | .add, a, .expr .bool e =>
    if a matches .expr .text _ then concat a b
    else arithInCommon .add a (.expr .int (indicator .int e))
  | .add, .expr .text _, _ | .add, .value _, .expr .text _ => concat a b
  | op, a, b => if a.isNumeric || b.isNumeric then arithInCommon op a b else refuse

/-- An operand as what fills a template. -/
def filling : Operand → Template.Filling
  | .value v => .value v
  | .expr s e => .term (Operand.expr s e).typeName e.text (s == .text)

/-- The remainder of integers; a text is a template for what it is divided by. -/
def mod (a b : Operand) : Except Fault Operand :=
  match a, b with
  | .value (.text s), b => do return .value (.text (← Template.fill s b.filling))
  | .value v, .value w => do return .value (← v.mod w)
  | a, b =>
    if a.isNumeric || b.isNumeric then
      numericPair a b fun n a b =>
        match n, a, b with
        | .int, a, b => .ok (.expr .int (.remainder a b))
        | .real, _, _ => fail .integerRemainderExpected
    else fail (.notSupported "%" a.typeName b.typeName)

def negate : Operand → Except Fault Operand
  | .value v => do return .value (← v.neg)
  | .expr (.numeric n) e => .ok (.expr (.numeric n) (.negate e))
  | a => fail (.signNotSupported a.typeName)

/-- Comparison in the common sort; truth values only differ or not. -/
def compareInCommon (c : Comparison) (a b : Operand) : Except Fault Operand := do
  match ← pair a b, c with
  | .numerics _ a b, c => return .expr .bool (.compare c a b)
  | .bools a b, .ne => return .expr .bool (.not (.iff a b))
  | .bools a b, _ => return .expr .bool (.iff a b)
  | .texts a b, c => return .expr .bool (.compareText c a b)

/-- The order of texts, where one of two operands is a term for texts; the order downwards is the
order upwards with its sides exchanged. -/
def compareTexts (c : Comparison) (a b : Operand) : Except Fault Operand :=
  match a, b with
  | .expr .text x, .expr .text y => .ok (.expr .bool (.compareText c x y))
  | .value v, _ | _, .value v => fail (.noTerm v.fullTypeName)
  | .expr s _, .expr t _ =>
    fail <| match c with
      | .lt => .textsExpected "<" s.name t.name
      | .gt => .textsExpected "<" t.name s.name
      | .ge => .textsExpected "<=" t.name s.name
      | _ => .textsExpected "<=" s.name t.name

/-- A comparison. No expression equals the absent value. -/
def compare (c : Comparison) (a b : Operand) : Except Fault Operand :=
  match c, a, b with
  | c, .value v, .value w => do return .value (← v.compare c w)
  | .eq, .value .null, _ | .eq, _, .value .null => .ok (.value (.bool false))
  | .ne, .value .null, _ | .ne, _, .value .null => .ok (.value (.bool true))
  | .eq, a, b | .ne, a, b => compareInCommon c a b
  | c, .expr (.numeric _) _, _ => compareInCommon c a b
  | c, .expr .text _, _ | c, _, .expr .text _ => compareTexts c a b
  | c, a, b =>
    if b.isNumeric then compareInCommon c a b
    else fail (.notOrdered c.symbol a.typeName b.typeName)

def sort? : Operand → Option VariableSort
  | .value _ => none
  | .expr s _ => some s

def commonSort (items : List Operand) : Except Fault VariableSort :=
  match items.filterMap sort? with
  | [] => .ok .bool
  | first :: rest => rest.foldlM joinSorts first

/-- A plain value as an expression; an expression stays as it is. -/
def toExpression : Operand → Except Fault Operand
  | .value v => ofLiteral v
  | item => .ok item

/-- The operands of a connective: one list stands for its items, and without any expression plain
values become expressions. -/
def connectiveItems (items : List Operand) : Except Fault (List Operand) :=
  let items := match items with
    | [.value (.list vs)] => vs.map Operand.value
    | items => items
  if items.any (·.sort?.isSome) then .ok items
  else items.mapM toExpression

/-- A connective of any number of operands, all of which have to be truth values. -/
def connective (name : String) (join : Expr .bool → Expr .bool → Expr .bool) (unit : Bool)
    (items : List Operand) : Except Fault Operand := do
  let items ← connectiveItems items
  match ← commonSort items with
  | .bool =>
    match ← items.mapM toBool with
    | [] => return .expr .bool (.const unit)
    | first :: rest => return .expr .bool (rest.foldl join first)
  | .numeric n =>
    let _ ← items.mapM (toNumeric n)
    fail (.connectiveMismatch name (VariableSort.numeric n).name)
  | .text =>
    let _ ← items.mapM toText
    fail (.connectiveMismatch name VariableSort.text.name)

def conj (items : List Operand) : Except Fault Operand := connective "and" .and true items

def disj (items : List Operand) : Except Fault Operand := connective "or" .or false items

def not (a : Operand) : Except Fault Operand := do return .expr .bool (.not (← a.toBool))

def implies (a b : Operand) : Except Fault Operand := do
  let a ← a.toBool
  let b ← b.toBool
  return .expr .bool (.implies a b)

def xor (a b : Operand) : Except Fault Operand := do
  let a ← a.toBool
  let b ← b.toBool
  return .expr .bool (.not (.iff a b))

def toReal : Operand → Except Fault Operand
  | .value v => fail (.notATerm v.fullTypeName)
  | .expr .bool e => .ok (.expr .real (indicator .real e))
  | .expr (.numeric .int) e => .ok (.expr .real (.toReal e))
  | .expr (.numeric .real) _ => fail .integerConversionExpected
  | .expr .text _ => fail .noNumber

def ite (condition a b : Operand) : Except Fault Operand := do
  let condition ← condition.toBool
  match ← pair a b with
  | .bools a b => return .expr .bool (.ite condition a b)
  | .numerics n a b => return .expr (.numeric n) (.ite condition a b)
  | .texts a b => return .expr .text (.ite condition a b)

end Operand

end RecordAudit
