import Mathlib.Tactic.Linarith
import RecordAudit.Catalog
import RecordAudit.Proofs.Check.Meaning
import RecordAudit.Proofs.Number.RoundTrip
import RecordAudit.Proofs.Solver.Candidates
import RecordAudit.Proofs.Solver.Stack

/-!
# What the constraints for contracts mean

Each constraint of the catalog means a condition on the values that are read for its fields. All of
them come to a verdict on every record, whatever its texts are.
-/

namespace RecordAudit

open Reading

/-! ## Values of fields -/

namespace FieldValues

variable (fields : FieldValues) (name : String)

def flag : Bool := readFlag (fields.raw? name)

def count : Int := readCount (fields.raw? name)

def day : Int := Calendar.readDay (fields.raw? name)

/-- The exact decimal of the amount that is read. -/
def amount : Rat := ((readAmount (fields.raw? name)).decimalValue?).getD 0

theorem decimalValue?_readAmount :
    (readAmount (fields.raw? name)).decimalValue? = some (fields.amount name) :=
  Kind.decimalValue?_readAmount _

end FieldValues

namespace Catalog

/-! ## Variables -/

section Variables

variable (c : Constraint) (name : String)

theorem denotes_flag (mem : (name, Kind.flag) ∈ c.kinds.entries) :
    (field name).Denotes c (s := .bool) fun fields => fields.flag name :=
  Term.denotes_variable mem

theorem denotes_count (mem : (name, Kind.count) ∈ c.kinds.entries) :
    (field name).Denotes c (s := .int) fun fields => fields.count name :=
  Term.denotes_variable mem

theorem denotes_day (mem : (name, Kind.date) ∈ c.kinds.entries) :
    (field name).Denotes c (s := .int) fun fields => fields.day name :=
  Term.denotes_variable mem

theorem denotes_amount (mem : (name, Kind.amount) ∈ c.kinds.entries) :
    (field name).Denotes c (s := .real) fun fields => fields.amount name :=
  Term.denotes_variable mem

end Variables

theorem denote_between {c : Constraint} {a : Term} {n : Numeric} {x : FieldValues → n.Carrier}
    {low high : Int} (ha : a.Denotes c (s := .numeric n) x) (low_small : low.natAbs < 10 ^ 3)
    (high_small : high.natAbs < 10 ^ 3) :
    Term.DenoteAll c (between a low high)
      [fun fields => n.compare .ge (x fields) (n.ofInt low), fun fields =>
        n.compare .le (x fields) (n.ofInt high)] :=
  (ha.compareLiteral .ge (Value.counts_int n low_small)).cons
    ((ha.compareLiteral .le (Value.counts_int n high_small)).cons .nil)

/-! ## Counts and days -/

theorem termLengthBounds_means : termLengthBounds.Means fun fields =>
    1 ≤ fields.count "col_term_length" ∧ fields.count "col_term_length" ≤ 60 := by
  have term := denotes_count termLengthBounds "col_term_length" (by decide)
  refine .ofTerms rfl (denote_between term (by decide) (by decide)) ?_
  simp [Numeric.compare_int_iff, Comparison.Holds, Numeric.ofInt]

theorem noticePeriodRange_means : noticePeriodRange.Means fun fields =>
    30 ≤ fields.count "col_notice_period" ∧ fields.count "col_notice_period" ≤ 180 := by
  have notice := denotes_count noticePeriodRange "col_notice_period" (by decide)
  refine .ofTerms rfl (denote_between notice (by decide) (by decide)) ?_
  simp [Numeric.compare_int_iff, Comparison.Holds, Numeric.ofInt]

theorem dateOrdering_means : dateOrdering.Means fun fields =>
    fields.day "col_start_date" < fields.day "col_end_date" := by
  have start := denotes_day dateOrdering "col_start_date" (by decide)
  have last := denotes_day dateOrdering "col_end_date" (by decide)
  refine .ofTerms rfl ((start.compare .lt last).cons .nil) ?_
  simp [Numeric.compare_int_iff, Comparison.Holds]

theorem half_months (term : Int) :
    Numeric.int.apply .div (Numeric.int.apply .mul term (30 : Int)) (2 : Int) = 15 * term := by
  simp only [Numeric.apply]
  change term * 30 / 2 = 15 * term
  omega

theorem noticeVersusTerm_means : noticeVersusTerm.Means fun fields =>
    fields.count "col_notice_period" ≤ 15 * fields.count "col_term_length" := by
  have notice := denotes_count noticeVersusTerm "col_notice_period" (by decide)
  have term := denotes_count noticeVersusTerm "col_term_length" (by decide)
  have days := term.arithLiteral .mul (Value.counts_int .int (i := 30) (by decide)) nofun
  have half := days.arithLiteral .div (Value.counts_int .int (i := 2) (by decide)) fun _ => by
    decide
  refine .ofTerms rfl ((notice.compare .le half).cons .nil) fun fields => ?_
  have bound := half_months (fields.count "col_term_length")
  simp [Numeric.compare_int_iff, Comparison.Holds, Numeric.ofInt, bound]

/-! ## Flags -/

theorem autoRenewalRequiresTerm_means : autoRenewalRequiresTerm.Means fun fields =>
    fields.flag "col_proc_auto_renewal" = false ∨ 0 < fields.count "col_term_length" := by
  have renewal := denotes_flag autoRenewalRequiresTerm "col_proc_auto_renewal" (by decide)
  have term := denotes_count autoRenewalRequiresTerm "col_term_length" (by decide)
  have positive := term.compareLiteral .gt (Value.counts_int .int (i := 0) (by decide))
  refine .ofTerms rfl ((renewal.implies positive).cons .nil) ?_
  simp [Numeric.compare_int_iff, Comparison.Holds, Numeric.ofInt]

theorem liabilityCapAmount_means : liabilityCapAmount.Means fun fields =>
    fields.flag "col_proc_cap_liability" = false ∨ 0 < fields.amount "col_liability_amount" := by
  have cap := denotes_flag liabilityCapAmount "col_proc_cap_liability" (by decide)
  have liability := denotes_amount liabilityCapAmount "col_liability_amount" (by decide)
  have positive := liability.compareLiteral .gt (Value.counts_int .real (i := 0) (by decide))
  refine .ofTerms rfl ((cap.implies positive).cons .nil) ?_
  simp [Numeric.compare_real_iff, Comparison.Holds, Numeric.ofInt]

theorem insuranceMinimum_means : insuranceMinimum.Means fun fields =>
    fields.flag "col_proc_insurance" = false ∨
      2 * fields.amount "col_liability_amount" ≤ fields.amount "col_insurance_amount" := by
  have required := denotes_flag insuranceMinimum "col_proc_insurance" (by decide)
  have liability := denotes_amount insuranceMinimum "col_liability_amount" (by decide)
  have insurance := denotes_amount insuranceMinimum "col_insurance_amount" (by decide)
  have double := liability.arithLiteral .mul (Value.counts_int .real (i := 2) (by decide)) nofun
  refine .ofTerms rfl ((required.implies (insurance.compare .ge double)).cons .nil) ?_
  simp [Numeric.compare_real_iff, Comparison.Holds, Numeric.ofInt, Numeric.apply, mul_comm]

theorem paymentMethodExactlyOne_means : paymentMethodExactlyOne.Means fun fields =>
    ["col_payment_wire", "col_payment_check", "col_payment_ach"].countP fields.flag = 1 := by
  have wire := denotes_flag paymentMethodExactlyOne "col_payment_wire" (by decide)
  have check := denotes_flag paymentMethodExactlyOne "col_payment_check" (by decide)
  have ach := denotes_flag paymentMethodExactlyOne "col_payment_ach" (by decide)
  have some_method := (wire.cons (check.cons (ach.cons .nil))).or
  have not_both :=
    fun {a b : Term} {p q : FieldValues → Bool} (ha : a.Denotes paymentMethodExactlyOne (s := .bool)
      p) (hb : b.Denotes paymentMethodExactlyOne (s := .bool) q) => (ha.cons (hb.cons .nil)).and.not
  refine .ofTerms rfl (some_method.cons ((not_both wire check).cons ((not_both wire ach).cons
    ((not_both check ach).cons .nil)))) fun fields => ?_
  simp only [List.countP_cons, List.countP_nil, List.all_cons, List.all_nil,
    List.any_cons, List.any_nil]
  cases fields.flag "col_payment_wire" <;> cases fields.flag "col_payment_check" <;>
    cases fields.flag "col_payment_ach" <;> decide

/-! ## Amounts -/

open Number in
/-- The tolerance is written as the hundredth that it is rounded from. -/
theorem decimalValue?_paymentTolerance : paymentTolerance.decimalValue? = some (1 / 100) := by
  have value : mkRat 1 100 = 1 / 100 := by norm_num [Rat.mkRat_eq_div]
  have rounded : paymentTolerance = .ofRatio false 1 100 := by
    rw [paymentTolerance, Binary64.ofRat, value]
    simp only [one_div, Rat.inv_ofNat_num, Rat.inv_ofNat_den]
    rfl
  have lower : 100 ≤ 1 * 10 ^ 290 := by
    rw [Nat.one_mul]
    exact Nat.le_trans (by decide) (Nat.le_of_lt (lt_ten_pow 290))
  have upper : 1 ≤ 100 * 10 ^ 290 := Nat.mul_pos (by decide) (ten_pow_pos 290)
  have decimal := Binary64.decimalValue?_ofRatio (m := 1) (k := -2) (by decide) (by decide)
    (by decide) lower upper (by decide) false
  rw [rounded, decimal]
  norm_num [Rat.mkRat_eq_div]

theorem paymentTermsArithmetic_means : paymentTermsArithmetic.Means fun fields =>
    |fields.amount "col_total_payment" - (fields.amount "col_upfront_payment" +
      fields.amount "col_recurring_payment" * fields.count "col_term_length")| ≤
      fields.amount "col_total_payment" / 100 := by
  have upfront := denotes_amount paymentTermsArithmetic "col_upfront_payment" (by decide)
  have recurring := denotes_amount paymentTermsArithmetic "col_recurring_payment" (by decide)
  have term := denotes_count paymentTermsArithmetic "col_term_length" (by decide)
  have total := denotes_amount paymentTermsArithmetic "col_total_payment" (by decide)
  have calculated := upfront.arith .add nofun (recurring.arith .mul nofun term.toReal)
  have tolerance := total.arithLiteral .mul
    (Value.counts_float decimalValue?_paymentTolerance) nofun
  refine .ofTerms rfl ((total.compare .ge (calculated.arith .sub nofun tolerance)).cons
    ((total.compare .le (calculated.arith .add nofun tolerance)).cons .nil)) fun fields => ?_
  simp only [List.all_cons, List.all_nil, Bool.and_true, Bool.and_eq_true, Numeric.compare_real_iff,
    Comparison.Holds, Numeric.apply, abs_le]
  constructor
  · rintro ⟨low, high⟩
    constructor <;> linarith
  · rintro ⟨low, high⟩
    constructor <;> linarith

theorem ownershipPercentage_means : ownershipPercentage.Means fun fields =>
    0 ≤ fields.amount "col_ownership_pct" ∧ fields.amount "col_ownership_pct" ≤ 1 := by
  have share := denotes_amount ownershipPercentage "col_ownership_pct" (by decide)
  refine .ofTerms rfl (denote_between share (by decide) (by decide)) ?_
  simp [Numeric.compare_real_iff, Comparison.Holds, Numeric.ofInt]

/-! ## Models -/

abbrev shareBounds : List (Expr .bool) :=
  [.compare (n := .real) .ge (.var .real "col_ownership_pct") (.const (s := .real) (0 : Rat)),
    .compare (n := .real) .le (.var .real "col_ownership_pct") (.const (s := .real) (1 : Rat))]

theorem expressions_ownershipPercentage : ownershipPercentage.expressions = .ok shareBounds := by
  have declared : ("col_ownership_pct", Kind.amount) ∈ ownershipPercentage.kinds.entries := by
    decide
  have share := Term.elaborate_variable declared
  have low := Term.elaborate_compareLiteral .ge share (Value.counts_int .real (i := 0) (by decide))
  have high := Term.elaborate_compareLiteral .le share (Value.counts_int .real (i := 1) (by decide))
  have elaborated : Term.elaborateAll (declareAll ownershipPercentage.kinds)
      (between (field "col_ownership_pct") 0 1) = .ok (shareBounds.map (Operand.expr .bool)) := by
    rw [between, atLeast, atMost, field, int, int, Term.elaborateAll, low, Term.elaborateAll, high]
    rfl
  exact Constraint.expressions_ofTerms rfl elaborated

/-- The bounds change their truth at nought and one, so the shares to try are few, and all of them
can be reported. -/
theorem reported_of_decided {w : Valuation}
    (decided : decideAssertions shareBounds = .satisfied w) :
    (VariableSort.reported .real (w .real "col_ownership_pct")).isOk = true := by
  have occurs : (VariableSort.real, "col_ownership_pct") ∈ variablesOf shareBounds :=
    List.mem_singleton.2 rfl
  obtain ⟨⟨s, name, values⟩, isDomain, same, among⟩ := decideAssertions_among decided occurs
  obtain ⟨rfl, rfl⟩ := Prod.mk.inj same
  obtain ⟨-, ⟨value, pin, -⟩ | ⟨-, tried⟩⟩ := domain_cases isDomain
  · cases pin
  · have points : crossings (linesOf shareBounds) .real "col_ownership_pct" = [0, 1] := by
      decide +kernel
    have sorted : ([0, 1] : List Rat).mergeSort (· ≤ ·) = [0, 1] :=
      List.mergeSort_of_pairwise (by decide)
    have shares : ∀ q ∈ candidates .real [0, 1], q ∈ [(0 : Rat), 1, 1 / 2, 2, -1] := by
      rw [candidates, rationalCandidates, sorted]
      simp [afterEach, List.mem_eraseDups, one_add_one_eq_two]
    have small : ∀ q ∈ [(0 : Rat), 1, 1 / 2, 2, -1], q.num.natAbs < 10 ^ 200 ∧
        q.den < 10 ^ 200 := by
      simp [Int.natAbs_sign_of_ne_zero]
    dsimp only at among tried
    rw [tried, points] at among
    obtain ⟨num, den⟩ := small _ (shares _ among)
    exact VariableSort.isOk_reported_of_lt num den

theorem unreportable_ownershipPercentage :
    ownershipPercentage.unreportable AssertionStack.decider none = false := by
  rw [Constraint.unreportable, expressions_ownershipPercentage]
  refine (AssertionStack.unreportable_decider _ shareBounds).trans ?_
  cases decided : decideAssertions shareBounds with
  | unsatisfiable | undecided => rfl
  | satisfied w =>
    have asked : variablesOf shareBounds = [(.real, "col_ownership_pct")] := rfl
    simp [asked, reported_of_decided decided]

/-- The models that a stack finds for the other constraints are computed, and can be reported. The
share of an owner is not among them: its candidates are rationals that have to be sorted first. -/
theorem unreportable_others :
    ∀ c ∈ [termLengthBounds, noticePeriodRange, autoRenewalRequiresTerm, liabilityCapAmount,
      paymentTermsArithmetic, dateOrdering, paymentMethodExactlyOne, insuranceMinimum,
      noticeVersusTerm],
    c.unreportable AssertionStack.decider none = false := by
  decide +kernel

theorem unreportable_constraint {c : Constraint} (mem : c ∈ constraints) (timeout : Timeout) :
    c.unreportable AssertionStack.decider timeout = false := by
  have untimed : c.unreportable AssertionStack.decider timeout =
    c.unreportable AssertionStack.decider none := rfl
  rw [untimed]
  simp only [constraints, List.mem_cons, List.not_mem_nil, or_false] at mem
  rcases mem with rfl | rfl | rfl | rfl | rfl | rfl | rfl | rfl | rfl | rfl
  case inr.inr.inr.inr.inr.inr.inr.inl => exact unreportable_ownershipPercentage
  all_goals exact unreportable_others _ (by simp)

/-! ## Checks -/

theorem exists_means {c : Constraint} (mem : c ∈ constraints) : ∃ condition, c.Means condition := by
  simp only [constraints, List.mem_cons, List.not_mem_nil, or_false] at mem
  rcases mem with rfl | rfl | rfl | rfl | rfl | rfl | rfl | rfl | rfl | rfl
  · exact ⟨_, termLengthBounds_means⟩
  · exact ⟨_, noticePeriodRange_means⟩
  · exact ⟨_, autoRenewalRequiresTerm_means⟩
  · exact ⟨_, liabilityCapAmount_means⟩
  · exact ⟨_, paymentTermsArithmetic_means⟩
  · exact ⟨_, dateOrdering_means⟩
  · exact ⟨_, paymentMethodExactlyOne_means⟩
  · exact ⟨_, ownershipPercentage_means⟩
  · exact ⟨_, insuranceMinimum_means⟩
  · exact ⟨_, noticeVersusTerm_means⟩

section Checks

variable {σ : Type} {m : Surroundings σ} {d : Decider} {clean : σ → Prop}
  (keeps : m.Keeps d.judge.replies clean) (sound : d.Sound) (decides : d.DecidesPinned)
  {w : World σ} (rest : w.AtRest clean) (t : TaskId) (settings : SolverSettings) (timeout : Timeout)
include keeps sound decides rest

/-- Whatever is checked beside them, the constraints of the catalog come to a verdict on every
record, and the verdict is that of the condition which they describe, on the values that are read
for the kinds of their fields. The quotient in the bound on notices is exact for every term. When
witnesses are asked for, the models that the solver finds for the constraints have to be
reportable. -/
theorem catalog_as_described
    (reportable : settings.witnessOnViolation = true → ∀ c ∈ constraints,
      c.unreportable d (some (timeout.getD settings.timeout)) = false) :
    ∃ finding : FieldValues → Constraint → ConstraintFinding,
      (∀ r cs specs, (w.checkAlone m t settings timeout r cs specs).1 =
        some (r.onTexts fun fields => (cs ++ compileFieldRules specs).map (finding fields))) ∧
      ∀ fields : FieldValues,
        (∀ name, (readAmount (fields.raw? name)).decimalValue? = some (fields.amount name)) ∧
        (∀ c ∈ constraints, (finding fields c).outcome = .satisfied ∨
          (finding fields c).outcome = .violated) ∧
        (finding fields termLengthBounds).outcome =
          .decidedBy (1 ≤ fields.count "col_term_length" ∧ fields.count "col_term_length" ≤ 60) ∧
        (finding fields noticePeriodRange).outcome =
          .decidedBy (30 ≤ fields.count "col_notice_period" ∧
            fields.count "col_notice_period" ≤ 180) ∧
        (finding fields autoRenewalRequiresTerm).outcome =
          .decidedBy (fields.flag "col_proc_auto_renewal" = false ∨
            0 < fields.count "col_term_length") ∧
        (finding fields liabilityCapAmount).outcome =
          .decidedBy (fields.flag "col_proc_cap_liability" = false ∨
            0 < fields.amount "col_liability_amount") ∧
        (finding fields dateOrdering).outcome =
          .decidedBy (fields.day "col_start_date" < fields.day "col_end_date") ∧
        (finding fields paymentMethodExactlyOne).outcome =
          .decidedBy (["col_payment_wire", "col_payment_check", "col_payment_ach"].countP
            fields.flag = 1) ∧
        (finding fields ownershipPercentage).outcome =
          .decidedBy (0 ≤ fields.amount "col_ownership_pct" ∧
            fields.amount "col_ownership_pct" ≤ 1) ∧
        (finding fields insuranceMinimum).outcome =
          .decidedBy (fields.flag "col_proc_insurance" = false ∨
            2 * fields.amount "col_liability_amount" ≤ fields.amount "col_insurance_amount") ∧
        (finding fields noticeVersusTerm).outcome =
          .decidedBy (fields.count "col_notice_period" ≤ 15 * fields.count "col_term_length") ∧
        ∀ term : Int, Numeric.int.apply .div (Numeric.int.apply .mul term (30 : Int)) (2 : Int) =
          15 * term := by
  have outcome : ∀ {c : Constraint} {condition : FieldValues → Prop}, c ∈ constraints →
      c.Means condition → ∀ fields [Decidable (condition fields)],
        (d.judge.finding settings timeout fields c).outcome = .decidedBy (condition fields) :=
    fun mem means fields _ =>
      means.outcome sound decides (fun witnessed => reportable witnessed _ mem) fields
  refine ⟨_, fun r cs specs => (World.checkAlone_eq keeps rest t settings timeout r cs specs).1,
      fun fields =>
    ⟨fields.decimalValue?_readAmount, fun c mem => ?_, outcome (by simp [constraints])
      termLengthBounds_means fields, outcome (by simp [constraints]) noticePeriodRange_means fields,
      outcome (by simp [constraints]) autoRenewalRequiresTerm_means fields,
      outcome (by simp [constraints]) liabilityCapAmount_means fields,
      outcome (by simp [constraints]) dateOrdering_means fields,
      outcome (by simp [constraints]) paymentMethodExactlyOne_means fields,
      outcome (by simp [constraints]) ownershipPercentage_means fields,
      outcome (by simp [constraints]) insuranceMinimum_means fields,
      outcome (by simp [constraints]) noticeVersusTerm_means fields, half_months⟩⟩
  obtain ⟨condition, means⟩ := exists_means mem
  classical
  have decided := outcome mem means fields
  rw [Outcome.decidedBy] at decided
  split at decided
  · exact .inl decided
  · exact .inr decided

/-- The payments agree when the total differs from what the others come to by a hundredth of the
total at most. The hundredth has the sign of the total: a total that is not negative may differ by
as much in both directions, and a negative total never agrees, even where it is exactly what the
others come to. When witnesses are asked for, the model that the solver finds for the constraint has
to be reportable. -/
theorem payments_within_tolerance
    (reportable : settings.witnessOnViolation = true →
      paymentTermsArithmetic.unreportable d (some (timeout.getD settings.timeout)) = false) :
    ∃ finding : FieldValues → Constraint → ConstraintFinding,
      (∀ r cs specs, (w.checkAlone m t settings timeout r cs specs).1 =
        some (r.onTexts fun fields => (cs ++ compileFieldRules specs).map (finding fields))) ∧
      ∀ fields : FieldValues, ∃ upfront recurring total : Rat,
        (readAmount (fields.raw? "col_upfront_payment")).decimalValue? = some upfront ∧
        (readAmount (fields.raw? "col_recurring_payment")).decimalValue? = some recurring ∧
        (readAmount (fields.raw? "col_total_payment")).decimalValue? = some total ∧
        let calculated := upfront + recurring * readCount (fields.raw? "col_term_length")
        let outcome := (finding fields paymentTermsArithmetic).outcome
        outcome = .decidedBy (|total - calculated| ≤ total / 100) ∧
        (0 ≤ total → outcome = .decidedBy (|total - calculated| ≤ |total| / 100)) ∧
        (total < 0 → outcome = .violated) ∧
        (total = calculated → (outcome = .satisfied ↔ 0 ≤ total)) := by
  refine ⟨_, fun r cs specs => (World.checkAlone_eq keeps rest t settings timeout r cs specs).1,
    fun fields => ?_⟩
  have verdict := paymentTermsArithmetic_means.outcome sound decides reportable fields
  refine ⟨_, _, _, fields.decimalValue?_readAmount _, fields.decimalValue?_readAmount _,
    fields.decimalValue?_readAmount _, verdict, fun nonneg => ?_, fun negative => ?_,
    fun exact_total => ?_⟩
  · rw [abs_of_nonneg nonneg]
    exact verdict
  · refine verdict.trans (Outcome.decidedBy_eq_violated_iff.2 fun within => ?_)
    have := (abs_nonneg _).trans within
    linarith
  · refine (iff_of_eq (congrArg (· = Outcome.satisfied) verdict)).trans
      (Outcome.decidedBy_eq_satisfied_iff.trans ?_)
    have none_missing : |fields.amount "col_total_payment" - (fields.amount "col_upfront_payment" +
        fields.amount "col_recurring_payment" * fields.count "col_term_length")| = 0 :=
      abs_eq_zero.2 (sub_eq_zero.2 exact_total)
    rw [none_missing]
    constructor <;> intro h <;> linarith

end Checks

/-- A record with two methods of payment, too little insurance and some fields absent, with
witnesses asked for. -/
theorem catalog_as_described_mixed :
    let r : Record := .ofList
      [("col_term_length", .text "24 months"), ("col_proc_auto_renewal", .text " YES "),
        ("col_liability_amount", .text "$2M"), ("col_insurance_amount", .text "3,999,999.99"),
      ("col_proc_insurance", .text "true"), ("col_ownership_pct", .text "25%"),
      ("col_start_date", .text "2024-01-15"), ("col_end_date", .text "14 January 2024"),
      ("col_payment_wire", .text "yes"), ("col_payment_ach", .text "1")]
    ((World.empty : World AssertionStack).checkAlone (.fresh AssertionStack.backend .empty false) 0
      ⟨5000, by decide, true⟩ none r [termLengthBounds, noticePeriodRange, autoRenewalRequiresTerm,
        liabilityCapAmount, dateOrdering, paymentMethodExactlyOne, ownershipPercentage,
        insuranceMinimum, noticeVersusTerm] []).1.map
      (·.map (List.map (·.outcome))) =
    some (.ok [.satisfied, .violated, .satisfied, .satisfied, .violated, .violated, .satisfied,
      .violated, .satisfied]) := by
  intro r
  obtain ⟨finding, checked, each⟩ := catalog_as_described (AssertionStack.keeps_fresh false)
    AssertionStack.sound_decider AssertionStack.decidesPinned_decider (.empty _) 0
      ⟨5000, by decide, true⟩ none
    fun _ _ mem => unreportable_constraint mem _
  obtain ⟨fields, flat⟩ : ∃ fields, r.fieldValues = .ok fields := ⟨_, rfl⟩
  obtain ⟨-, -, term, notice, renewal, cap, dates, method, share, insurance, bound, -⟩ :=
    each fields
  rw [checked, Record.onTexts_of_ok flat]
  simp only [compileFieldRules, List.filter_nil, List.flatMap_nil, List.append_nil, Option.map_some,
    Except.map, List.map_cons, List.map_nil, term, notice, renewal, cap, dates, method, share,
    insurance, bound]
  refine congrArg (fun outcomes => some (Except.ok outcomes)) ?_
  obtain rfl := Except.ok.inj flat
  decide +kernel

/-- A refund that is written with exact negative amounts is found to be violated. -/
theorem payments_within_tolerance_refund :
    let r : Record := .ofList
      [("col_upfront_payment", .text "-$1,000"), ("col_recurring_payment", .text "-$500"),
        ("col_term_length", .text "24 months"), ("col_total_payment", .text "-$13,000")]
    ∃ fields, r.fieldValues = .ok fields ∧
      fields.amount "col_total_payment" = fields.amount "col_upfront_payment" +
        fields.amount "col_recurring_payment" * fields.count "col_term_length" ∧
      ((World.empty : World AssertionStack).checkAlone (.fresh AssertionStack.backend .empty false)
        0 ⟨5000, by decide, true⟩ none r [paymentTermsArithmetic] []).1.map
          (·.map (List.map (·.outcome))) =
      some (.ok [.violated]) := by
  intro r
  obtain ⟨finding, checked, each⟩ := payments_within_tolerance (AssertionStack.keeps_fresh false)
    AssertionStack.sound_decider AssertionStack.decidesPinned_decider (.empty _) 0
      ⟨5000, by decide, true⟩ none
    fun _ => unreportable_constraint (by simp [constraints]) _
  let fields : FieldValues := .ofList [("col_upfront_payment", some "-$1,000"),
    ("col_recurring_payment", some "-$500"), ("col_term_length", some "24 months"),
    ("col_total_payment", some "-$13,000")]
  have flat : r.fieldValues = .ok fields := rfl
  obtain ⟨upfront, recurring, total, -, -, read, -, -, negative, -⟩ := each fields
  have refunded : (readAmount (fields.raw? "col_total_payment")).decimalValue? = some (-13000) := by
    decide +kernel
  obtain rfl : total = -13000 := Option.some.inj (read.symm.trans refunded)
  refine ⟨fields, flat, by decide +kernel, ?_⟩
  rw [checked, Record.onTexts_of_ok flat]
  exact congrArg (fun outcome => some (Except.ok [outcome])) (negative (by decide))

end Catalog

end RecordAudit
