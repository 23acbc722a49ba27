import RecordAudit.Fault
import RecordAudit.Pattern.Reader
import RecordAudit.Record
import RecordAudit.Value.Convert

/-!
# Formulas over the fields of a record

A formula is built with connectives from atoms, and an atom asks a predicate about the raw text of
one field. A caller may put something into a formula that is no formula; such a place is kept, and
refused only when it is looked at.
-/

namespace RecordAudit

open Number Text

/-- A question about a text. -/
inductive Predicate where
  /-- Equality with a literal; a literal that is no text equals no text. -/
  | equals (literal : Value)
  | present
  /-- Whether a pattern occurs in the text. -/
  | matchesPattern (pattern : Pattern)
  /-- Whether the text begins with a number between two bounds. -/
  | inRange (low high : Binary64)
  /-- A question of the caller's own, answered by a value that counts as true or false. -/
  | custom (name : String) (answer : String → Except Fault Value)

inductive Formula where
  | atom (field : String) (predicate : Predicate)
  | and (left right : Formula)
  | or (left right : Formula)
  | implies (premise conclusion : Formula)
  | not (operand : Formula)
  | iff (left right : Formula)
  /-- Something that is no formula. -/
  | foreign (value : Value)

namespace Formula

instance : Inhabited Formula := ⟨.foreign .null⟩

def equals (field literal : String) : Formula := .atom field (.equals (.text literal))

def isYes (field : String) : Formula := equals field "Yes"

def isNo (field : String) : Formula := equals field "No"

def present (field : String) : Formula := .atom field .present

/-- The field is missing, has no value, or is empty. -/
def isAbsent (field : String) : Formula := .not (present field)

/-- The range between two values, taken as floating-point numbers. -/
def inRange (field : String) (low high : Value) : Except Fault Formula := do
  return .atom field (.inRange (← low.toBinary64) (← high.toBinary64))

def matchesPattern (field source : String) (options : Pattern.Options) : Except Fault Formula :=
  match Pattern.read source options with
  | .ok pattern => .ok (.atom field (.matchesPattern pattern))
  | .error fault => .error (.pattern fault)

/-- The conjunction of one or more formulas, nested to the left. -/
def allOf (first : Formula) (rest : List Formula) : Formula := rest.foldl .and first

/-- The disjunction of one or more formulas, nested to the left. -/
def anyOf (first : Formula) (rest : List Formula) : Formula := rest.foldl .or first

/-- The field of every atom from left to right, provided there is nothing foreign. -/
def occurrences : Formula → Except Fault (List String)
  | .atom field _ => .ok [field]
  | .and a b | .or a b | .implies a b | .iff a b => do
    let before ← a.occurrences
    let after ← b.occurrences
    return before ++ after
  | .not a => a.occurrences
  | .foreign v => .error (.notAFormula v)

/-- The fields of the formula's atoms, each once, in the order of their first occurrence. -/
def fields (formula : Formula) : Except Fault (List String) :=
  formula.occurrences.map List.eraseDups

end Formula

/-! ## Text and equality -/

namespace Predicate

def shown : Predicate → String
  | .equals literal => "Equals(literal=" ++ literal.shown ++ ")"
  | .present => "Present()"
  | .matchesPattern pattern => "Matches(pattern=" ++ pattern.shown ++ ")"
  | .inRange low high => "InRange(low=" ++ low.text ++ ", high=" ++ high.text ++ ")"
  | .custom name _ => "<function " ++ name ++ ">"

/-- Whether two predicates are known to be the same question. -/
def same : Predicate → Predicate → Bool
  | .equals a, .equals b => a.eq b
  | .present, .present => true
  | .matchesPattern p, .matchesPattern q => p.same q
  | .inRange a b, .inRange c d => a.eq c && b.eq d
  | _, _ => false

end Predicate

namespace Formula

def shown : Formula → String
  | .atom field predicate =>
    "Atom(field_id=" ++ quote field ++ ", predicate=" ++ predicate.shown ++ ")"
  | .and a b => "And(left=" ++ a.shown ++ ", right=" ++ b.shown ++ ")"
  | .or a b => "Or(left=" ++ a.shown ++ ", right=" ++ b.shown ++ ")"
  | .implies a b => "Implies(premise=" ++ a.shown ++ ", conclusion=" ++ b.shown ++ ")"
  | .not a => "Not(operand=" ++ a.shown ++ ")"
  | .iff a b => "Iff(left=" ++ a.shown ++ ", right=" ++ b.shown ++ ")"
  | .foreign v => v.shown

def same : Formula → Formula → Bool
  | .atom f p, .atom g q => f == g && p.same q
  | .and a b, .and c d | .or a b, .or c d | .implies a b, .implies c d | .iff a b, .iff c d =>
    a.same c && b.same d
  | .not a, .not b => a.same b
  | .foreign v, .foreign w => v.eq w
  | _, _ => false

end Formula

end RecordAudit
