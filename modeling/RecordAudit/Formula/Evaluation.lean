import RecordAudit.Formula.Basic
import RecordAudit.Pattern.Search

/-!
# Evaluation of formulas

Both operands of a connective are evaluated, the left one first, whatever the first one gives. An
atom over a field without a value is false, and its predicate is not asked. The first fault ends the
evaluation.
-/

namespace RecordAudit

open Number

/-- The answer of a predicate for a text. -/
def Predicate.ask (predicate : Predicate) (text : String) : Except Fault Bool :=
  match predicate with
  | .equals (.text literal) => .ok (text == literal)
  | .equals _ => .ok false
  | .present => .ok (text != "")
  | .matchesPattern pattern => pattern.occursIn text
  | .inRange low high =>
    match leadingNumeral? text.toList with
    | some numeral =>
      let x := Binary64.ofNumeral numeral
      .ok (low.le x && x.le high)
    | none => .ok false
  | .custom _ answer => (answer text).map Value.isTruthy

/-- A predicate that was asked, with the field and the text it was asked about. -/
structure Inquiry where
  field : String
  predicate : Predicate
  text : String

/-- What an evaluation did, and what came of it. -/
structure Evaluation where
  inquiries : List Inquiry
  outcome : Except Fault Bool

namespace Evaluation

/-- One evaluation after another, with the two results combined. -/
def combine (op : Bool → Bool → Bool) (first second : Evaluation) : Evaluation :=
  match first.outcome with
  | .error fault => ⟨first.inquiries, .error fault⟩
  | .ok a => ⟨first.inquiries ++ second.inquiries, second.outcome.map (op a)⟩

end Evaluation

namespace Formula

def run (values : FieldValues) : Formula → Evaluation
  | .atom field predicate =>
    match values.raw? field with
    | none => ⟨[], .ok false⟩
    | some text => ⟨[⟨field, predicate, text⟩], predicate.ask text⟩
  | .and a b => .combine (· && ·) (a.run values) (b.run values)
  | .or a b => .combine (· || ·) (a.run values) (b.run values)
  | .implies a b => .combine (fun p q => !p || q) (a.run values) (b.run values)
  | .not a =>
    let inner := a.run values
    ⟨inner.inquiries, inner.outcome.map (!·)⟩
  | .iff a b => .combine (· == ·) (a.run values) (b.run values)
  | .foreign v => ⟨[], .error (.notAFormula v)⟩

/-- The evaluation of a formula on a record. Nothing is asked when a cell has no text that can be
written. -/
def evaluation (formula : Formula) (record : Record) : Evaluation :=
  match record.fieldValues with
  | .ok values => formula.run values
  | .error fault => ⟨[], .error fault⟩

def evaluate (formula : Formula) (record : Record) : Except Fault Bool :=
  (formula.evaluation record).outcome

end Formula

end RecordAudit
