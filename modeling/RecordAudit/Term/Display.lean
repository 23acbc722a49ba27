import RecordAudit.Term.Basic
import RecordAudit.Reading.Kind

/-!
# Text of expressions

Arithmetic and comparisons stand between their operands, in parentheses only where they bind less
tightly than what they stand in; everything else is written as a name before its operands.
-/

namespace RecordAudit

open Text

/-- How tightly the outermost operation of a text binds: not at all between names and parentheses,
then less and less. -/
structure Shown where
  text : String
  rank : Nat
  /-- The operation, where several of it in a row need no parentheses. -/
  chain : String

namespace Shown

/-- A text that needs no parentheses. -/
def closed (s : String) : Shown := ⟨s, 0, ""⟩

def parenthesized (s : Shown) : String := "(" ++ s.text ++ ")"

def call (name : String) (operands : List Shown) : Shown :=
  closed (name ++ "(" ++ ", ".intercalate (operands.map Shown.text) ++ ")")

/-- An operation between two operands. The first may bind as tightly as the operation, the second
only when both are the same chain. -/
def between (symbol : String) (rank : Nat) (chain : String) (a b : Shown) : Shown :=
  let inChain := fun s : Shown => chain != "" && s.chain == chain
  let left := if a.rank ≤ rank then a.text else a.parenthesized
  let right := if b.rank < rank || inChain b then b.text else b.parenthesized
  ⟨left ++ symbol ++ right, rank, chain⟩

/-- A sign before an operand. -/
def minus (a : Shown) : Shown :=
  ⟨"-" ++ (if a.rank == 0 || a.chain == "-" then a.text else a.parenthesized), 1, "-"⟩

end Shown

/-- An integer or a fraction in lowest terms. -/
def Numeric.text : (n : Numeric) → n.Carrier → String
  | .int, (i : Int) => toString i
  | .real, (q : Rat) =>
    if q.den == 1 then toString q.num else toString q.num ++ "/" ++ toString q.den

/-- The text of a value of a sort: a truth value, a number, or a text. -/
def VariableSort.valueText : (s : VariableSort) → s.Carrier → String
  | .bool, b => Reading.boolText b
  | .numeric n, a => n.text a
  | .text, s => s

namespace Expr

def shown : {s : VariableSort} → Expr s → Shown
  | _, .var _ name => .closed name
  | .text, .const value => .closed ("\"" ++ VariableSort.text.valueText value ++ "\"")
  | s, .const value => .closed (s.valueText value)
  | _, .arith .add a b => a.shown.between " + " 3 "+" b.shown
  | _, .arith .sub a b => a.shown.between " - " 3 "" b.shown
  | _, .arith .mul a b => a.shown.between "*" 2 "*" b.shown
  | _, .arith .div a b => a.shown.between "/" 2 "" b.shown
  | _, .remainder a b => a.shown.between "%" 2 "" b.shown
  | _, .negate a => a.shown.minus
  | _, .toReal a => .call "ToReal" [a.shown]
  | _, .ite c a b => .call "If" [c.shown, a.shown, b.shown]
  | _, .compare c a b => a.shown.between (" " ++ c.symbol ++ " ") 8 "" b.shown
  | _, .concat a b => .call "Concat" [a.shown, b.shown]
  | _, .compareText .lt a b => .call "str.<" [a.shown, b.shown]
  | _, .compareText .le a b => .call "str.<=" [a.shown, b.shown]
  | _, .compareText .gt a b => .call "str.<" [b.shown, a.shown]
  | _, .compareText .ge a b => .call "str.<=" [b.shown, a.shown]
  | _, .compareText c a b => a.shown.between (" " ++ c.symbol ++ " ") 8 "" b.shown
  | _, .iff a b => a.shown.between " == " 8 "" b.shown
  | _, .not (.iff a b) => a.shown.between " != " 8 "" b.shown
  | _, .not a => .call "Not" [a.shown]
  | _, .and a b => .call "And" [a.shown, b.shown]
  | _, .or a b => .call "Or" [a.shown, b.shown]
  | _, .implies a b => .call "Implies" [a.shown, b.shown]

def text {s : VariableSort} (e : Expr s) : String := e.shown.text

end Expr

end RecordAudit
