import RecordAudit.Proofs.Formula.Eager
import RecordAudit.Proofs.Solver.Reported
import RecordAudit.Rule

/-!
# The fields of a formula

The fields of a formula are those of its atoms, each once, in the order in which they occur first.
Nothing else of a record matters for the formula. An evaluation that comes to a result has seen
every leaf, so a formula that could be evaluated has fields.

## Main definitions

* `Formula.WellFormed`: all leaves of a formula are atoms.
* `Firsts`: a list names what occurs in another one, in the order of the first occurrences.
-/

namespace RecordAudit

/-! ## First occurrences -/

/-- The first list holds what occurs in the second one, each once, in the order of the first
occurrences. -/
structure Firsts (firsts all : List String) : Prop where
  nodup : firsts.Nodup
  mem_iff : ∀ name, name ∈ firsts ↔ name ∈ all
  ordered : firsts.Pairwise fun a b => all.idxOf a < all.idxOf b

/-- Leaving something out does not change the order of first occurrences of the rest. -/
theorem idxOf_lt_of_filter {p : String → Bool} {a b : String} (ha : p a = true) (hb : p b = true)
    {all : List String} (h : (all.filter p).idxOf a < (all.filter p).idxOf b) :
    all.idxOf a < all.idxOf b := by
  induction all with
  | nil => simp at h
  | cons c rest ih =>
    by_cases hc : p c = true
    · rw [List.filter_cons_of_pos hc] at h
      grind
    · have hca : c ≠ a := fun same => hc (same ▸ ha)
      have hcb : c ≠ b := fun same => hc (same ▸ hb)
      rw [List.filter_cons_of_neg hc] at h
      rw [List.idxOf_cons_ne rest hca, List.idxOf_cons_ne rest hcb]
      exact Nat.succ_lt_succ (ih h)

theorem pairwise_eraseDups (all : List String) :
    all.eraseDups.Pairwise fun a b => all.idxOf a < all.idxOf b := by
  cases all with
  | nil => exact .nil
  | cons a rest =>
    have kept : ∀ b ∈ (rest.filter fun b => !b == a).eraseDups, (!b == a) = true := fun b mem =>
      (List.mem_filter.1 (List.mem_eraseDups.1 mem)).2
    have later : ∀ b, (!b == a) = true → (a :: rest).idxOf b = rest.idxOf b + 1 := fun b other =>
      List.idxOf_cons_ne rest fun same => by simp [same] at other
    rw [List.eraseDups_cons, List.pairwise_cons]
    refine ⟨fun b mem => ?_, ?_⟩
    · rw [List.idxOf_cons_self, later b (kept b mem)]
      exact Nat.succ_pos _
    · refine (pairwise_eraseDups (rest.filter fun b => !b == a)).imp_of_mem
        fun {b c} memB memC lt => ?_
      rw [later b (kept b memB), later c (kept c memC)]
      exact Nat.succ_lt_succ (idxOf_lt_of_filter (p := fun b => !b == a) (kept b memB)
        (kept c memC) lt)
termination_by all.length
decreasing_by exact Nat.lt_succ_of_le (List.length_filter_le _ _)

theorem firsts_eraseDups (all : List String) : Firsts all.eraseDups all where
  nodup := by
    refine List.Pairwise.imp ?_ (pairwise_eraseDups all)
    rintro a b lt rfl
    exact Nat.lt_irrefl _ lt
  mem_iff _ := List.mem_eraseDups
  ordered := pairwise_eraseDups all

/-! ## Fields and leaves -/

namespace Leaf

def field : Leaf → Except Fault String
  | .atom field _ => .ok field
  | .foreign v => .error (.notAFormula v)

def field? : Leaf → Option String
  | .atom field _ => some field
  | .foreign _ => none

end Leaf

namespace Formula

def atomFields (formula : Formula) : List String := formula.leaves.filterMap Leaf.field?

def WellFormed (formula : Formula) : Prop :=
  ∀ l ∈ formula.leaves, ∃ field predicate, l = .atom field predicate

theorem leaves_ne_nil (formula : Formula) : formula.leaves ≠ [] := by
  induction formula with
  | atom field predicate | foreign v => exact List.cons_ne_nil _ _
  | and a b iha _ | or a b iha _ | implies a b iha _ | iff a b iha _ =>
    exact fun nil => iha (List.append_eq_nil_iff.1 nil).1
  | not a ih => exact ih

theorem occurrences_eq (formula : Formula) :
    formula.occurrences = formula.leaves.mapM Leaf.field := by
  induction formula with
  | atom field predicate | foreign v => rfl
  | and a b iha ihb | or a b iha ihb | implies a b iha ihb | iff a b iha ihb =>
    rw [occurrences, iha, ihb, leaves, List.mapM_append]
  | not a ih => rw [occurrences, ih, leaves]

theorem WellFormed.mapM_field {leaves : List Leaf}
    (h : ∀ l ∈ leaves, ∃ field predicate, l = .atom field predicate) :
    leaves.mapM Leaf.field = .ok (leaves.filterMap Leaf.field?) := by
  induction leaves with
  | nil => rfl
  | cons l rest ih =>
    obtain ⟨field, predicate, rfl⟩ := h l (by simp)
    rw [List.mapM_cons, ih fun l mem => h l (by simp [mem])]
    rfl

theorem WellFormed.fields_eq {formula : Formula} (h : formula.WellFormed) :
    formula.fields = .ok formula.atomFields.eraseDups := by
  rw [fields, occurrences_eq, WellFormed.mapM_field h]
  rfl

theorem WellFormed.atomFields_ne_nil {formula : Formula} (h : formula.WellFormed) :
    formula.atomFields ≠ [] := by
  intro nil
  obtain ⟨l, mem⟩ := List.exists_mem_of_ne_nil _ formula.leaves_ne_nil
  obtain ⟨field, predicate, rfl⟩ := h l mem
  have found : field ∈ formula.atomFields := List.mem_filterMap.2 ⟨_, mem, rfl⟩
  rw [nil] at found
  cases found

/-! ## Only these fields matter -/

theorem run_congr {formula : Formula} {values values' : FieldValues}
    (agree : ∀ name ∈ formula.atomFields, values.raw? name = values'.raw? name) :
    formula.run values = formula.run values' := by
  induction formula with
  | atom field predicate =>
    rw [run, run, agree field (by simp [atomFields, leaves, Leaf.field?])]
  | and a b iha ihb | or a b iha ihb | implies a b iha ihb | iff a b iha ihb =>
    have both : ∀ name, name ∈ a.atomFields ∨ name ∈ b.atomFields →
        values.raw? name = values'.raw? name :=
      fun name mem => agree name (by simpa [atomFields, leaves] using mem)
    rw [run, run, iha fun name mem => both name (.inl mem), ihb fun name mem =>
      both name (.inr mem)]
  | not a ih =>
    rw [run, run, ih agree]
  | foreign v => rfl

/-! ## Formulas that were evaluated -/

/-- An evaluation with a result has met nothing that is no formula. -/
theorem wellFormed_of_outcome {formula : Formula} {values : FieldValues} {holds : Bool}
    (h : (formula.run values).outcome = .ok holds) : formula.WellFormed := by
  have visits := formula.visits_run values
  generalize formula.run values = evaluation at h visits
  cases visits with
  | calmly calm _ =>
    intro l mem
    cases l with
    | atom field predicate => exact ⟨field, predicate, rfl⟩
    | foreign v => simpa [Leaf.fault?] using calm _ mem
  | upTo split calm raised => cases h

end Formula

/-! ## Rules -/

theorem Rule.finding_eq_error_iff {rule : Rule} {values : FieldValues} {fault : Fault} :
    rule.finding values = .error fault ↔ (rule.formula.run values).outcome = .error fault := by
  unfold finding
  cases outcome : (rule.formula.run values).outcome with
  | error f => simp
  | ok holds =>
    rw [(Formula.wellFormed_of_outcome outcome).fields_eq]
    simp [pure, Except.pure]

/-- The finding is that of the rule: it is satisfied as the formula holds, and is about the
formula's fields. -/
structure Rule.Finds (rule : Rule) (values : FieldValues) (f : Finding) : Prop where
  id_eq : f.id = rule.id
  outcome_eq : (rule.formula.run values).outcome = .ok f.satisfied
  wellFormed : rule.formula.WellFormed
  fields_eq : f.fields = rule.formula.atomFields.eraseDups

theorem Rule.of_finding {rule : Rule} {values : FieldValues} {f : Finding}
    (found : rule.finding values = .ok f) :
    rule.Finds values f := by
  unfold finding at found
  cases outcome : (rule.formula.run values).outcome with
  | error fault => simp [outcome] at found
  | ok holds =>
    have wellFormed := Formula.wellFormed_of_outcome outcome
    rw [outcome, ok_bind, wellFormed.fields_eq, ok_bind] at found
    cases found
    exact ⟨rfl, outcome, wellFormed, rfl⟩

theorem Formula.evaluate_eq (formula : Formula) (r : Record) :
    formula.evaluate r = r.fieldValues >>= fun values => (formula.run values).outcome := by
  rw [evaluate, evaluation]
  cases r.fieldValues <;> rfl

/-- The fields of a formula are those of its atoms, each once, in the order of their first
occurrence, and there is one. Records whose raw texts agree on them get the same truth value or
fault, by the same inquiries. A formula that is evaluated with a result has fields. So once a record
has raw texts, rules are applied up to the first one whose formula cannot be evaluated. -/
theorem fields_exact :
    (∀ formula : Formula, formula.WellFormed → ∃ fields, formula.fields = .ok fields ∧ fields ≠ [] ∧
        Firsts fields formula.atomFields ∧
        ∀ (r r' : Record) (values values' : FieldValues), r.fieldValues = .ok values →
          r'.fieldValues = .ok values' → (∀ name ∈ fields, values.raw? name = values'.raw? name) →
          formula.evaluation r = formula.evaluation r') ∧
      (∀ (formula : Formula) (r : Record) (holds : Bool), formula.evaluate r = .ok holds →
        ∃ fields, formula.fields = .ok fields) ∧
      ∀ (rules : List Rule) (r : Record) (fault : Fault), applyRules rules r = .error fault ↔
        r.fieldValues = .error fault ∨ ∃ before rule after, rules = before ++ rule :: after ∧
          (∀ earlier ∈ before, ∃ holds, earlier.formula.evaluate r = .ok holds) ∧
          rule.formula.evaluate r = .error fault := by
  refine ⟨fun formula wellFormed => ?_, fun formula r holds evaluated => ?_,
    fun rules r fault => ?_⟩
  · have firsts := firsts_eraseDups formula.atomFields
    refine ⟨_, wellFormed.fields_eq, fun nil => ?_, firsts,
      fun r r' values values' flat flat' agree => ?_⟩
    · obtain ⟨name, mem⟩ := List.exists_mem_of_ne_nil _ wellFormed.atomFields_ne_nil
      have found := (firsts.mem_iff name).2 mem
      rw [nil] at found
      cases found
    · rw [Formula.evaluation, flat, Formula.evaluation, flat']
      exact Formula.run_congr fun name mem => agree name ((firsts.mem_iff name).2 mem)
  · rw [Formula.evaluate_eq] at evaluated
    cases flat : r.fieldValues with
    | error fault =>
      rw [flat] at evaluated
      cases evaluated
    | ok values =>
      rw [flat] at evaluated
      exact ⟨_, (Formula.wellFormed_of_outcome evaluated).fields_eq⟩
  · simp only [Formula.evaluate_eq, applyRules]
    cases r.fieldValues with
    | error fault' => simp +contextual
    | ok values =>
      have calm : ∀ rule : Rule, (∃ finding, rule.finding values = .ok finding) ↔
          ∃ holds, (rule.formula.run values).outcome = .ok holds := by
        intro rule
        have faults := fun fault => @Rule.finding_eq_error_iff rule values fault
        cases found : rule.finding values <;> cases outcome : (rule.formula.run values).outcome <;>
          simp_all
      simp only [ok_bind, mapM_eq_error_iff, calm, Rule.finding_eq_error_iff,
        reduceCtorEq, false_or]

/-- A formula that asks about one field twice, around another one: two records that differ elsewhere
are evaluated alike, with all three inquiries. -/
theorem fields_exact_repeated :
    let formula : Formula := .implies (.present "b") (.and (.isYes "a") (.not (.isNo "b")))
    let r : Record := .ofList [("a", .text "Yes"), ("b", .text "No"), ("c", .bool true)]
    let r' : Record := .ofList [("b", .text "No"), ("a", .boxed (.text "Yes"))]
    formula.fields = .ok ["b", "a"] ∧ formula.evaluate r = .ok false ∧
      formula.evaluate r' = .ok false ∧ (formula.evaluation r').inquiries.map (·.field) =
          ["b", "a", "b"] := by
  intro formula r r'
  have wellFormed : formula.WellFormed := by
    intro l mem
    have leaves : formula.leaves =
        [.atom "b" .present, .atom "a" (.equals (.text "Yes")), .atom "b" (.equals (.text "No"))] :=
          rfl
    rw [leaves] at mem
    cases l with
    | atom field predicate => exact ⟨field, predicate, rfl⟩
    | foreign v => simp at mem
  have found : formula.fields = .ok ["b", "a"] := rfl
  obtain ⟨fields, found', -, -, alike⟩ := fields_exact.1 formula wellFormed
  obtain rfl : ["b", "a"] = fields := Except.ok.inj (found.symm.trans found')
  let values : FieldValues := .ofList [("a", some "Yes"), ("b", some "No"), ("c", some "True")]
  let values' : FieldValues := .ofList [("b", some "No"), ("a", some "Yes")]
  have same : formula.evaluation r = formula.evaluation r' :=
    alike r r' values values' rfl rfl (by decide)
  have evaluated : formula.evaluate r = .ok false := rfl
  exact ⟨found, evaluated, (congrArg Evaluation.outcome same).symm.trans evaluated, same ▸ rfl⟩

end RecordAudit
