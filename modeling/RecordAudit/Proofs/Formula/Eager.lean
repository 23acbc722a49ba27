import RecordAudit.Formula.Evaluation
import RecordAudit.Proofs.Flattening

/-!
# Evaluation is eager

An evaluation takes the raw texts of a record and then visits the leaves of a formula from left to
right, whatever the truth values on the way are. It asks the predicate of every atom whose field has
a text, once, and stops at the first leaf that raises a fault. When none does, it gives the truth
value that the formula has classically.

## Main definitions

* `Formula.leaves`: the atoms of a formula and what is no formula, from left to right.
* `Formula.Holds`: the truth of a formula, given that of its atoms.
* `Evaluation.Visits`: an evaluation that visits leaves in order and ends as it should.
-/

namespace RecordAudit

/-- A place of a formula that is no connective. -/
inductive Leaf where
  | atom (field : String) (predicate : Predicate)
  | foreign (value : Value)

namespace Leaf

variable (values : FieldValues)

/-- What is asked at a leaf: the predicate of an atom, when its field has a text. -/
def inquiry? : Leaf → Option Inquiry
  | .atom field predicate => (values.raw? field).map fun text => ⟨field, predicate, text⟩
  | .foreign _ => none

/-- The fault that a leaf raises: that of its predicate, when it is asked, or that it is no
formula. -/
def fault? : Leaf → Option Fault
  | .atom field predicate => (values.raw? field).bind fun text =>
    match predicate.ask text with
    | .ok _ => none
    | .error fault => some fault
  | .foreign v => some (.notAFormula v)

end Leaf

namespace Formula

def leaves : Formula → List Leaf
  | .atom field predicate => [.atom field predicate]
  | .and a b | .or a b | .implies a b | .iff a b => a.leaves ++ b.leaves
  | .not a => a.leaves
  | .foreign v => [.foreign v]

/-- The truth of a formula, given which atoms are true. -/
def Holds (isTrue : String → Predicate → Prop) : Formula → Prop
  | .atom field predicate => isTrue field predicate
  | .and a b => a.Holds isTrue ∧ b.Holds isTrue
  | .or a b => a.Holds isTrue ∨ b.Holds isTrue
  | .implies a b => a.Holds isTrue → b.Holds isTrue
  | .not a => ¬a.Holds isTrue
  | .iff a b => (a.Holds isTrue ↔ b.Holds isTrue)
  | .foreign _ => False

end Formula

/-- An atom is true of a record when its field has a text and the predicate says yes to it. -/
def FieldValues.Affirms (values : FieldValues) (field : String) (predicate : Predicate) : Prop :=
  ∃ text, values.raw? field = some text ∧ predicate.ask text = .ok true

/-- An evaluation visits leaves in order. -/
inductive Evaluation.Visits (values : FieldValues) (leaves : List Leaf) (truth : Prop) :
    Evaluation → Prop
  /-- No leaf raises a fault: all of them are visited, and the result is the truth value. -/
  | calmly {holds : Bool} (calm : ∀ l ∈ leaves, l.fault? values = none)
      (truthful : holds = true ↔ truth) :
    Visits values leaves truth ⟨leaves.filterMap (·.inquiry? values), .ok holds⟩
  /-- The leaves up to the first that raises a fault are visited, and the result is this fault. -/
  | upTo {before : List Leaf} {leaf : Leaf} {after : List Leaf} {fault : Fault}
    (split : leaves = before ++ leaf :: after) (calm : ∀ l ∈ before, l.fault? values = none)
    (raised : leaf.fault? values = some fault) :
    Visits values leaves truth ⟨(before ++ [leaf]).filterMap (·.inquiry? values), .error fault⟩

namespace Evaluation.Visits

variable {values : FieldValues} {as bs : List Leaf} {P Q R : Prop} {a b : Evaluation}

/-- The second evaluation goes on where the first one has come to its end without a fault. -/
theorem combine (first : a.Visits values as P) (second : b.Visits values bs Q)
    {op : Bool → Bool → Bool} (connective : ∀ p q : Bool, (p = true ↔ P) → (q = true ↔ Q) →
      (op p q = true ↔ R)) :
    (Evaluation.combine op a b).Visits values (as ++ bs) R := by
  cases first with
  | @calmly p calm truthful =>
    cases second with
    | @calmly q calm' truthful' =>
      have all : ∀ l ∈ as ++ bs, l.fault? values = none := by
        intro l mem
        exact (List.mem_append.1 mem).elim (calm l) (calm' l)
      have visits := Visits.calmly all (connective p q truthful truthful')
      rwa [List.filterMap_append] at visits
    | @upTo before leaf after fault split calm' raised =>
      have whole : as ++ bs = (as ++ before) ++ leaf :: after := by rw [split, List.append_assoc]
      have none_before : ∀ l ∈ as ++ before, l.fault? values = none := by
        intro l mem
        exact (List.mem_append.1 mem).elim (calm l) (calm' l)
      have visits : Visits values _ R _ := .upTo whole none_before raised
      rwa [List.append_assoc, List.filterMap_append] at visits
  | @upTo before leaf after fault split calm raised =>
    have whole : as ++ bs = before ++ leaf :: (after ++ bs) := by
      rw [split, List.append_assoc, List.cons_append]
    exact .upTo whole calm raised

theorem map (h : a.Visits values as P) {op : Bool → Bool}
    (connective : ∀ p : Bool, (p = true ↔ P) → (op p = true ↔ R)) :
    Visits values as R ⟨a.inquiries, a.outcome.map op⟩ := by
  cases h with
  | @calmly p calm truthful => exact .calmly calm (connective p truthful)
  | upTo split calm raised => exact .upTo split calm raised

end Evaluation.Visits

namespace Formula

variable {values : FieldValues}

/-- Every formula is evaluated leaf by leaf. -/
theorem visits_run (values : FieldValues) (formula : Formula) :
    (formula.run values).Visits values formula.leaves (formula.Holds values.Affirms) := by
  induction formula with
  | atom field predicate =>
    rw [run, leaves, Holds]
    cases raw : values.raw? field with
    | none =>
      have silent : ∀ l ∈ [Leaf.atom field predicate], l.fault? values = none := by
        simp [Leaf.fault?, raw]
      have untrue : false = true ↔ values.Affirms field predicate := by
        simp [FieldValues.Affirms, raw]
      have visits := Evaluation.Visits.calmly silent untrue
      simpa [Leaf.inquiry?, raw] using visits
    | some text =>
      cases asked : predicate.ask text with
      | ok answer =>
        have silent : ∀ l ∈ [Leaf.atom field predicate], l.fault? values = none := by
          simp [Leaf.fault?, raw, asked]
        have truthful : answer = true ↔ values.Affirms field predicate := by
          simp [FieldValues.Affirms, raw, asked]
        have visits := Evaluation.Visits.calmly silent truthful
        simpa [Leaf.inquiry?, raw, asked] using visits
      | error fault =>
        have raised : (Leaf.atom field predicate).fault? values = some fault := by
          simp [Leaf.fault?, raw, asked]
        have alone : [Leaf.atom field predicate] = [] ++ .atom field predicate :: [] := rfl
        have visits : Evaluation.Visits _ _ (values.Affirms field predicate) _ :=
          .upTo alone nofun raised
        simpa [Leaf.inquiry?, raw, asked] using visits
  | and a b iha ihb =>
    refine iha.combine ihb fun p q hp hq => ?_
    rw [Holds, ← hp, ← hq, Bool.and_eq_true]
  | or a b iha ihb =>
    refine iha.combine ihb fun p q hp hq => ?_
    rw [Holds, ← hp, ← hq, Bool.or_eq_true]
  | implies a b iha ihb =>
    refine iha.combine ihb fun p q hp hq => ?_
    rw [Holds, ← hp, ← hq]
    cases p <;> simp
  | not a ih =>
    refine ih.map fun p hp => ?_
    rw [Holds, ← hp, Bool.not_eq_true', Bool.not_eq_true]
  | iff a b iha ihb =>
    refine iha.combine ihb fun p q hp hq => ?_
    rw [Holds, ← hp, ← hq]
    cases p <;> cases q <;> simp
  | foreign v =>
    have alone : (foreign v).leaves = [] ++ .foreign v :: [] := rfl
    exact .upTo alone nofun rfl

/-! ## Conjunctions and disjunctions of many formulas -/

section Many

variable (first : Formula) (rest : List Formula) (isTrue : String → Predicate → Prop)

end Many

end Formula

end RecordAudit
