import RecordAudit.Number.Layout
import RecordAudit.Text.Quoted
import RecordAudit.Reading.Kind

/-!
# Values without a fixed type

Cells of records, thresholds of rules, literals of assertions and values of log entries come without
a fixed type. `Value` is what they can be; `Value.shown` is their text in messages and `Value.text`
the text that stands for a cell.
-/

namespace RecordAudit

open Number Text

inductive Value where
  | null
  | bool (b : Bool)
  | int (i : Int)
  | float (x : Binary64)
  | text (s : String)
  /-- A text of which some code points are no characters. -/
  | brokenText (codePoints : List Nat)
  | list (items : List Value)
  | mapping (entries : List (String × Value))
  /-- An object that holds a value. -/
  | boxed (content : Value)
  deriving Repr

namespace Value

instance : Inhabited Value := ⟨.null⟩

def typeName : Value → String
  | .null => "NoneType"
  | .bool _ => "bool"
  | .int _ => "int"
  | .float _ => "float"
  | .text _ | .brokenText _ => "str"
  | .list _ => "list"
  | .mapping _ => "dict"
  | .boxed _ => "SimpleNamespace"

/-- The name of the type together with where it is defined. -/
def fullTypeName : Value → String
  | .boxed _ => "types.SimpleNamespace"
  | v => v.typeName

mutual

/-- The value as it is shown inside other values: texts are quoted. -/
def shown : Value → String
  | .null => "None"
  | .bool b => Reading.boolText b
  | .int i => toString i
  | .float x => x.text
  | .text s => quote s
  | .brokenText codePoints => quoteCodePoints codePoints
  | .list items => "[" ++ ", ".intercalate (shownItems items) ++ "]"
  | .mapping entries => "\x7b" ++ ", ".intercalate (shownEntries entries) ++ "\x7d"
  | .boxed content => "namespace(value=" ++ shown content ++ ")"

def shownItems : List Value → List String
  | [] => []
  | v :: rest => shown v :: shownItems rest

def shownEntries : List (String × Value) → List String
  | [] => []
  | (key, v) :: rest => (quote key ++ ": " ++ shown v) :: shownEntries rest

end

/-- The value as plain text: a text is itself, and anything else is shown. The replacement character
stands for code points that are no characters. -/
def plain : Value → String
  | .text s => s
  | .brokenText codePoints =>
    .ofList (codePoints.map fun n => if n.isValidChar then .ofNat n else '\ufffd')
  | v => v.shown

/-- Whether the value counts as true: all but null, false, zero and what is empty. -/
def isTruthy : Value → Bool
  | .null => false
  | .bool b => b
  | .int i => i != 0
  | .float x => !x.isZero
  | .text s => s != ""
  | .brokenText codePoints => !codePoints.isEmpty
  | .list items => !items.isEmpty
  | .mapping entries => !entries.isEmpty
  | .boxed _ => true

def ofTyped : Reading.Typed → Value
  | .bool b => .bool b
  | .int i => .int i
  | .real x => .float x

end Value

/-- A number of the extended line, or the value that is no number. -/
inductive Magnitude where
  | finite (q : Rat)
  | infinite (negative : Bool)
  | nan
  deriving DecidableEq

namespace Magnitude

def ofBinary64 (x : Binary64) : Magnitude :=
  match x, x.toRat? with
  | _, some q => .finite q
  | .infinite negative, _ => .infinite negative
  | _, _ => .nan

/-- Numerical equality, in which nothing equals the value that is no number. -/
def eq : Magnitude → Magnitude → Bool
  | .finite p, .finite q => p == q
  | .infinite a, .infinite b => a == b
  | _, _ => false

def lt : Magnitude → Magnitude → Bool
  | .finite p, .finite q => p < q
  | .infinite true, .finite _ => true
  | .infinite true, .infinite false => true
  | .finite _, .infinite false => true
  | _, _ => false

end Magnitude

namespace Value

/-- The number that a truth value, an integer or a floating-point number is. -/
def magnitude? : Value → Option Magnitude
  | .bool b => some (.finite (if b then 1 else 0))
  | .int i => some (.finite i)
  | .float x => some (.ofBinary64 x)
  | _ => none

mutual

/-- Equality of values. Numbers are equal as numbers, whatever their types; mappings are equal when
they give equal values to the same keys, in any order. -/
def eq : Value → Value → Bool
  | .null, .null => true
  | .text a, .text b => a == b
  | .brokenText a, .brokenText b => a == b
  | .list as, .list bs => eqItems as bs
  | .mapping as, .mapping bs => as.length == bs.length && eqEntries as bs
  | .boxed a, .boxed b => eq a b
  | a, b =>
    match a.magnitude?, b.magnitude? with
    | some m, some n => m.eq n
    | _, _ => false

def eqItems : List Value → List Value → Bool
  | [], [] => true
  | a :: as, b :: bs => eq a b && eqItems as bs
  | _, _ => false

def eqEntries : List (String × Value) → List (String × Value) → Bool
  | [], _ => true
  | (key, a) :: as, bs =>
    (match bs.lookup key with
      | some b => eq a b
      | none => false) && eqEntries as bs

end

end Value

end RecordAudit
