import Mathlib.Algebra.Order.Ring.Nat
import Mathlib.Tactic.Common
import RecordAudit.Constraint.FieldRule

/-!
# Ids of the constraints of fields' own rules

Every rule of a number field becomes one constraint, and the constraints stand in the order of the
fields and of their rules. The id of such a constraint joins the id of the field and that of the
rule with a low line, which may also be part of either. So two rules get one id when another low
line is taken for the one that joins, and only then.

## Main definitions

* `FieldSpec.StandsAt`: the place of a rule among those that become constraints.
* `FieldSpec.Absorbs`: the id of a field takes in a part of the id of another field's rule.
-/

namespace RecordAudit

namespace FieldSpec

variable {specs : List FieldSpec} {spec spec' s : FieldSpec} {rule rule' : FieldRule} {place : Nat}
  {c : Constraint}

def ruleCount (spec : FieldSpec) : Nat := if spec.type = .number then spec.rules.length else 0

/-- A rule of a number field stands behind those of the fields before it and behind the earlier ones
of its field. -/
def StandsAt (specs : List FieldSpec) (place : Nat) (spec : FieldSpec) (rule : FieldRule) : Prop :=
  ∃ i j, specs[i]? = some spec ∧ spec.type = .number ∧ spec.rules[j]? = some rule ∧
    place = ((specs.take i).map ruleCount).sum + j

/-- The field's id is the other field's id and a text after a low line, with which the other rule's
id begins. -/
def Absorbs (spec : FieldSpec) (rule : FieldRule) (spec' : FieldSpec) (rule' : FieldRule) : Prop :=
  ∃ text, spec.id = spec'.id ++ "_" ++ text ∧ rule'.id = text ++ "_" ++ rule.id

/-! ## Places -/

theorem not_standsAt_nil : ¬StandsAt [] place spec rule := by
  rintro ⟨i, j, first, -⟩
  simp at first

theorem standsAt_cons :
    StandsAt (s :: specs) place spec rule ↔
      (spec = s ∧ s.type = .number ∧ s.rules[place]? = some rule) ∨
        ∃ further, StandsAt specs further spec rule ∧ place = s.ruleCount + further := by
  constructor
  · rintro ⟨i, j, field, isNumber, isRule, rfl⟩
    cases i with
    | zero =>
      obtain rfl : s = spec := by simpa using field
      exact .inl ⟨rfl, isNumber, by simpa using isRule⟩
    | succ i =>
      refine .inr ⟨_, ⟨i, j, by simpa using field, isNumber, isRule, rfl⟩, ?_⟩
      rw [List.take_succ_cons, List.map_cons, List.sum_cons, Nat.add_assoc]
  · rintro (⟨rfl, isNumber, isRule⟩ | ⟨further, ⟨i, j, field, isNumber, isRule, rfl⟩, rfl⟩)
    · exact ⟨0, place, rfl, isNumber, isRule, by simp⟩
    · refine ⟨i + 1, j, by simpa using field, isNumber, isRule, ?_⟩
      rw [List.take_succ_cons, List.map_cons, List.sum_cons, Nat.add_assoc]

theorem StandsAt.mem (stands : StandsAt specs place spec rule) :
    spec ∈ specs ∧ rule ∈ spec.rules := by
  obtain ⟨i, j, field, -, isRule, -⟩ := stands
  exact ⟨List.mem_of_getElem? field, List.mem_of_getElem? isRule⟩

def constraints (spec : FieldSpec) : List Constraint :=
  if spec.type = .number then spec.rules.map spec.constraint else []

theorem compileFieldRules_cons :
    compileFieldRules (s :: specs) = s.constraints ++ compileFieldRules specs := by
  unfold compileFieldRules constraints
  by_cases isNumber : s.type = .number <;> simp [isNumber]

theorem length_constraints : s.constraints.length = s.ruleCount := by
  unfold constraints ruleCount
  split <;> simp

theorem length_compileFieldRules :
    (compileFieldRules specs).length = (specs.map ruleCount).sum := by
  induction specs with
  | nil => rfl
  | cons s rest ih =>
    rw [compileFieldRules_cons, List.length_append, length_constraints, ih, List.map_cons,
      List.sum_cons]

theorem getElem?_constraints :
    s.constraints[place]? = some c ↔
      s.type = .number ∧ ∃ rule, s.rules[place]? = some rule ∧ c = s.constraint rule := by
  unfold constraints
  split
  · next isNumber => simp [isNumber, eq_comm (a := c)]
  · next other => simp [other]

theorem getElem?_compileFieldRules :
    (compileFieldRules specs)[place]? = some c ↔
      ∃ spec rule, StandsAt specs place spec rule ∧ c = spec.constraint rule := by
  induction specs generalizing place with
  | nil => simp [compileFieldRules, not_standsAt_nil]
  | cons s rest ih =>
    rw [compileFieldRules_cons, List.getElem?_append, length_constraints]
    simp only [standsAt_cons]
    split
    · next own =>
      rw [getElem?_constraints]
      constructor
      · rintro ⟨isNumber, rule, isRule, rfl⟩
        exact ⟨s, rule, .inl ⟨rfl, isNumber, isRule⟩, rfl⟩
      · rintro ⟨spec, rule, ⟨rfl, isNumber, isRule⟩ | ⟨further, -, rfl⟩, rfl⟩
        · exact ⟨isNumber, rule, isRule, rfl⟩
        · omega
    · next beyond =>
      rw [ih]
      constructor
      · rintro ⟨spec, rule, stands, rfl⟩
        exact ⟨spec, rule, .inr ⟨_, stands, by omega⟩, rfl⟩
      · rintro ⟨spec, rule, ⟨rfl, isNumber, isRule⟩ | ⟨further, stands, rfl⟩, rfl⟩
        · have inside := (List.getElem?_eq_some_iff.1 isRule).1
          rw [ruleCount, if_pos isNumber] at beyond
          exact absurd inside beyond
        · rw [Nat.add_sub_cancel_left]
          exact ⟨spec, rule, stands, rfl⟩

/-! ## Ids -/

/-- Texts joined by a mark are the same when their parts are, or when another mark is taken for the
joining one. -/
theorem append_cons_eq_append_cons_iff {α : Type} {a b r t : List α} {mark : α} :
    a ++ mark :: r = b ++ mark :: t ↔ (a = b ∧ r = t) ∨
      (∃ text, b = a ++ mark :: text ∧ r = text ++ mark :: t) ∨
        ∃ text, a = b ++ mark :: text ∧ t = text ++ mark :: r := by
  rw [List.append_eq_append_iff]
  constructor
  · rintro (⟨text, rfl, same⟩ | ⟨text, rfl, same⟩)
    all_goals
      cases text with
      | nil => simp_all
      | cons x text =>
        obtain ⟨rfl, rfl⟩ := List.cons.inj same
        simp
  · rintro (⟨rfl, rfl⟩ | ⟨text, rfl, rfl⟩ | ⟨text, rfl, rfl⟩)
    · exact .inl ⟨[], by simp⟩
    · exact .inl ⟨mark :: text, rfl, rfl⟩
    · exact .inr ⟨mark :: text, rfl, rfl⟩

theorem absorbs_iff :
    spec.Absorbs rule spec' rule' ↔ ∃ text, spec.id.toList = spec'.id.toList ++ '_' :: text ∧
      rule'.id.toList = text ++ '_' :: rule.id.toList := by
  constructor
  · rintro ⟨text, field, ofRule⟩
    exact ⟨text.toList, by simp [field], by simp [ofRule]⟩
  · rintro ⟨text, field, ofRule⟩
    exact ⟨String.ofList text, String.toList_inj.1 (by simp [field]),
      String.toList_inj.1 (by simp [ofRule])⟩

/-- The ids of constraints are the same when those of the fields and the rules are, or when a low
line of one is taken for the one that joins. -/
theorem id_constraint_eq_iff :
    (spec.constraint rule).id = (spec'.constraint rule').id ↔
      (spec.id = spec'.id ∧ rule.id = rule'.id) ∨ spec'.Absorbs rule' spec rule ∨
        spec.Absorbs rule spec' rule' := by
  have chars : ∀ (spec : FieldSpec) (rule : FieldRule), (spec.constraint rule).id.toList =
      "dynamic_".toList ++ (spec.id.toList ++ '_' :: rule.id.toList) := fun spec rule => by
        simp [constraint]
  rw [← String.toList_inj, chars, chars, List.append_cancel_left_eq, append_cons_eq_append_cons_iff,
    absorbs_iff, absorbs_iff, String.toList_inj, String.toList_inj]

/-- Only an id with a low line takes in a part of another id, which has one too. -/
theorem Absorbs.mem (absorbs : spec.Absorbs rule spec' rule') :
    '_' ∈ spec.id.toList ∧ '_' ∈ rule'.id.toList := by
  obtain ⟨text, field, ofRule⟩ := absorbs_iff.1 absorbs
  rw [field, ofRule]
  simp

end FieldSpec

open FieldSpec in
/-- Each rule of a number field becomes one constraint, in the order of the fields and of their
rules. Constraints of rules with different pairs of ids have one id just when the id of one field
takes in a part of the id of the other rule. So they have different ids when no field's id has a low
line, and also when no rule's id has one. -/
theorem field_rule_ids (specs : List FieldSpec) :
    (compileFieldRules specs).length = (specs.map ruleCount).sum ∧
      (∀ place c, (compileFieldRules specs)[place]? = some c ↔
        ∃ spec rule, StandsAt specs place spec rule ∧ c = spec.constraint rule) ∧
      ∀ place place' spec spec' rule rule', StandsAt specs place spec rule →
        StandsAt specs place' spec' rule' → (spec.id, rule.id) ≠ (spec'.id, rule'.id) →
          ∃ c c', (compileFieldRules specs)[place]? = some c ∧
            (compileFieldRules specs)[place']? = some c' ∧
            (c.id = c'.id ↔ spec.Absorbs rule spec' rule' ∨ spec'.Absorbs rule' spec rule) ∧
            ((∀ spec ∈ specs, '_' ∉ spec.id.toList) ∨
              (∀ spec ∈ specs, ∀ rule ∈ spec.rules, '_' ∉ rule.id.toList) → c.id ≠ c'.id) := by
  refine ⟨length_compileFieldRules, fun _ _ => getElem?_compileFieldRules, ?_⟩
  intro place place' spec spec' rule rule' stands stands' different
  have shared : (spec.constraint rule).id = (spec'.constraint rule').id ↔
      spec.Absorbs rule spec' rule' ∨ spec'.Absorbs rule' spec rule := by
    rw [id_constraint_eq_iff, or_comm (a := spec'.Absorbs rule' spec rule)]
    exact or_iff_right fun same => different (Prod.ext same.1 same.2)
  refine ⟨spec.constraint rule, spec'.constraint rule',
    getElem?_compileFieldRules.2 ⟨spec, rule, stands, rfl⟩,
    getElem?_compileFieldRules.2 ⟨spec', rule', stands', rfl⟩, shared, fun plain same => ?_⟩
  rcases shared.1 same with absorbs | absorbs
  · rcases plain with fields | rules
    · exact fields spec stands.mem.1 absorbs.mem.1
    · exact rules spec' stands'.mem.1 rule' stands'.mem.2 absorbs.mem.2
  · rcases plain with fields | rules
    · exact fields spec' stands'.mem.1 absorbs.mem.1
    · exact rules spec stands.mem.1 rule stands.mem.2 absorbs.mem.2

open FieldSpec in
/-- A rule `c` of a field `a_b` and a rule `b_c` of a field `a` become constraints with one id. -/
theorem field_rule_ids_low_line :
    let rule := fun id : String => FieldRule.mk id .ge (.int 1) none
    let specs := [FieldSpec.mk "a_b" "AB" .number [rule "c"],
      FieldSpec.mk "a" "A" .number [rule "b_c"]]
    ∃ c c', (compileFieldRules specs)[0]? = some c ∧ (compileFieldRules specs)[1]? = some c' ∧
        c.id = c'.id := by
  intro rule specs
  have stands : StandsAt specs 0 ⟨"a_b", "AB", .number, [rule "c"]⟩ (rule "c") :=
    ⟨0, 0, rfl, rfl, rfl, rfl⟩
  have stands' : StandsAt specs 1 ⟨"a", "A", .number, [rule "b_c"]⟩ (rule "b_c") :=
    ⟨1, 0, rfl, rfl, rfl, rfl⟩
  obtain ⟨c, c', there, there', shared, -⟩ :=
    (field_rule_ids specs).2.2 0 1 _ _ _ _ stands stands' (by simp)
  exact ⟨c, c', there, there', shared.2 (.inl ⟨"b", by decide, by decide⟩)⟩

end RecordAudit
