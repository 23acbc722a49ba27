import RecordAudit.Proofs.Check.ContractCatalog
import RecordAudit.Proofs.Formula.Fields
import RecordAudit.Proofs.Number.LeadingNumeral
import RecordAudit.Proofs.Number.Nearest
import RecordAudit.Proofs.Reading.AmountText
import RecordAudit.Proofs.Reading.FirstCount

/-!
# Two checks of notice periods

A rule compares the number at the start of the notice period, rounded to a floating-point number,
with two bounds. A constraint compares the first run of digits, as an integer, with the same bounds.
On a plain count both say whether the number that is written lies between the bounds, also where the
rounded number is infinite.
-/

namespace RecordAudit

open Number Reading Text

/-! ## Plain counts -/

/-- Blanks, a run of digits, and a suffix that cannot go on with them as a number. -/
structure PlainCount (text blanks digits suffix : List Char) : Prop where
  chars : text = blanks ++ (digits ++ suffix)
  blank : ∀ c ∈ blanks, isBlank c = true
  decimal : ∀ c ∈ digits, isDecimal c = true
  some_digit : digits ≠ []
  stop : ∀ c ∈ suffix.head?, isDecimal c = false ∧ c ∉ ['.', 'e', 'E']

namespace PlainCount

variable {text blanks digits suffix : List Char} (count : PlainCount text blanks digits suffix)
include count

theorem leadingNumeral?_eq (few : digits.length ≤ 4000) :
    leadingNumeral? text = some ⟨false, digitsValue digits, 0⟩ := by
  let n : WrittenNumeral :=
    ⟨none, digits, none, none, by simp, count.decimal, by simp, .inl count.some_digit⟩
  have chars : n.chars = digits := by simp [WrittenNumeral.chars, WrittenNumeral.pointed, n]
  have numeral : n.numeral = ⟨false, digitsValue digits, 0⟩ := by
    simp [WrittenNumeral.numeral, WrittenNumeral.places, n]
  have trimmed : trim text = n.chars ++ trimEnd suffix := by
    rw [count.chars, chars]
    exact trim_append count.blank (fun c mem => isBlank_of_isDecimal (count.decimal c mem))
      count.some_digit
  have stop : ∀ c ∈ (trimEnd suffix).head?, isDecimal c = false ∧ c ∉ ['.', 'e', 'E'] := by
    obtain ⟨dropped, same⟩ := trimEnd_prefix suffix
    intro c first
    exact count.stop c (by rw [← same, List.head?_append, Option.mem_def.1 first]; rfl)
  have digits_pos : 0 < digits.length := List.length_pos_iff.2 count.some_digit
  have few_digits : digitCount (digitsValue digits) ≤ 4000 :=
    ((digitCount_le_iff digits_pos).2 (digitsValue_lt digits)).trans few
  have within : (⟨false, digitsValue digits, 0⟩ : Numeral).withinLimits = true := by
    have lead : (⟨false, digitsValue digits, 0⟩ : Numeral).leadingExponent ≤ 4000 := by
      unfold Numeral.leadingExponent
      dsimp only
      omega
    simp only [Numeral.withinLimits, Bool.and_eq_true, decide_eq_true_eq]
    exact ⟨by decide, lead.trans (by decide)⟩
  rw [leadingNumeral?, trimmed, n.splitNumeral?_append stop, numeral]
  simp [within]

theorem firstDigitRun_eq : firstDigitRun text = digits := by
  have none_before : ∀ c ∈ blanks, isDecimal c = false := fun c mem =>
    Bool.eq_false_iff.2 fun digit => by simpa [count.blank c mem] using isBlank_of_isDecimal digit
  rw [count.chars]
  exact firstDigitRun_append none_before count.decimal count.some_digit fun c first =>
    (count.stop c first).1

end PlainCount

/-! ## Ranges of counts -/

/-- A whole number is compared with the bounds as its rounded value is. -/
theorem between_count (n : Nat) :
    ((Binary64.ofInt 30).le (.ofNumeral ⟨false, n, 0⟩) &&
      (Binary64.ofNumeral ⟨false, n, 0⟩).le (.ofInt 180)) = decide (30 ≤ n ∧ n ≤ 180) := by
  have value : Numeral.value ⟨false, n, 0⟩ = n := by simp [Numeral.value, tenPow_eq]
  have low := Binary64.le_ofNumeral_iff (n := ⟨false, n, 0⟩) (y := .ofInt 30) (z := .ofInt 29)
    (w := 30) (u := 29) (by decide +kernel) (by decide +kernel) (by decide +kernel)
      (by rw [value]; norm_cast; omega)
  have high := Binary64.ofNumeral_le_iff (n := ⟨false, n, 0⟩) (y := .ofInt 180) (z := .ofInt 181)
    (w := 180) (u := 181) (by decide +kernel) (by decide +kernel) (by decide +kernel)
      (by rw [value]; norm_cast; omega)
  rw [value] at low high
  rw [Bool.eq_iff_iff, Bool.and_eq_true, low, high, decide_eq_true_eq]
  norm_cast

/-! ## Rules -/

/-- The findings of an identifier are those of the rules that have it. -/
theorem filter_findings {rules : List Rule} {values : FieldValues} {findings : List Finding}
    (applied : rules.mapM (·.finding values) = .ok findings) (id : String) :
    (rules.filter (·.id == id)).mapM (·.finding values) = .ok (findings.filter (·.id == id)) := by
  rw [mapM_eq_ok_iff] at *
  induction applied with
  | nil => exact .nil
  | @cons rule f rules findings found _ ih =>
    simp only [List.filter_cons, (Rule.of_finding found).id_eq]
    split
    · exact .cons found ih
    · exact ih

theorem Formula.exists_outcome {formula : Formula} {values : FieldValues}
    (calm : ∀ l ∈ formula.leaves, l.fault? values = none) :
    ∃ holds, (formula.run values).outcome = .ok holds := by
  have visits := formula.visits_run values
  generalize formula.run values = evaluation at visits
  cases visits with
  | @calmly holds => exact ⟨holds, rfl⟩
  | @upTo before leaf after fault split _ raised =>
    rw [calm leaf (by simp [split])] at raised
    cases raised

theorem Leaf.fault?_eq_none {field : String} {predicate : Predicate} {values : FieldValues}
    (answers : ∀ text, ∃ holds, predicate.ask text = .ok holds) :
    (Leaf.atom field predicate).fault? values = none := by
  simp only [fault?, Option.bind_eq_none_iff]
  intro text _
  obtain ⟨holds, asked⟩ := answers text
  rw [asked]

namespace Catalog

theorem exists_findings (values : FieldValues) :
    ∃ findings, rules.mapM (·.finding values) = .ok findings := by
  have present : ∀ text, ∃ holds, Predicate.present.ask text = .ok holds := fun _ => ⟨_, rfl⟩
  have equals : ∀ literal text, ∃ holds, (Predicate.equals (.text literal)).ask text = .ok holds :=
    fun _ _ => ⟨_, rfl⟩
  have inRange : ∀ low high text, ∃ holds, (Predicate.inRange low high).ask text =
      .ok holds := fun low high text => by
    unfold Predicate.ask
    dsimp only
    split <;> exact ⟨_, rfl⟩
  refine exists_mapM_ok_iff.2 fun rule mem => ?_
  have calm : ∀ l ∈ rule.formula.leaves, l.fault? values = none := by
    simp only [rules, List.mem_cons, List.not_mem_nil, or_false] at mem
    rcases mem with rfl | rfl | rfl | rfl | rfl | rfl <;>
      simp [Formula.leaves, Formula.isYes, Formula.isNo, Formula.equals, Formula.present,
        Leaf.fault?_eq_none, present, equals, inRange]
  obtain ⟨holds, evaluated⟩ := Formula.exists_outcome calm
  cases found : rule.finding values with
  | ok f => exact ⟨f, rfl⟩
  | error fault =>
    rw [Rule.finding_eq_error_iff, evaluated] at found
    cases found

def noticePeriodFormula : Formula :=
  .implies (.present "col_notice_period")
    (.atom "col_notice_period" (.inRange (.ofInt 30) (.ofInt 180)))

theorem filter_rules_noticePeriod :
    ∃ rule, rules.filter (·.id == "rule_notice_period_range") = [rule] ∧
      rule.formula = noticePeriodFormula :=
  ⟨_, rfl, rfl⟩

section NoticePeriod

variable {values : FieldValues} {s : String} {blanks digits suffix : List Char}
  (raw : values.raw? "col_notice_period" = some s)
  (count : PlainCount s.toList blanks digits suffix) (few : digits.length ≤ 4000)
include raw count few

/-- On a plain count the formula compares the number that is written. -/
theorem outcome_noticePeriodFormula : (noticePeriodFormula.run values).outcome =
    .ok (decide (30 ≤ digitsValue digits ∧ digitsValue digits ≤ 180)) := by
  have nonempty : s ≠ "" := by
    rintro rfl
    have none_left := count.chars
    simp [count.some_digit] at none_left
  have range : (Predicate.inRange (.ofInt 30) (.ofInt 180)).ask s =
      .ok (decide (30 ≤ digitsValue digits ∧ digitsValue digits ≤ 180)) := by
    simp only [Predicate.ask, count.leadingNumeral?_eq few, between_count]
  have present : Predicate.present.ask s = .ok true := by simp [Predicate.ask, nonempty]
  simp [noticePeriodFormula, Formula.present, Formula.run, raw, present, range,
    Evaluation.combine, Except.map]

/-- So does the constraint. -/
theorem count_noticePeriod : values.count "col_notice_period" = digitsValue digits := by
  have within : digits.length ≤ maxCountDigits := few
  simp [FieldValues.count, raw, readCount, count.firstDigitRun_eq, within]

end NoticePeriod

/-- The rule and the constraint on notice periods agree on a plain count of at most 4000 digits,
whatever stands after it: both are satisfied when the number that is written lies between the
bounds. When witnesses are asked for, the model that the solver finds for the constraint has to be
reportable. -/
theorem notice_period_checks_agree {σ : Type} {m : Surroundings σ} {d : Decider} {clean : σ → Prop}
    (keeps : m.Keeps d.judge.replies clean) (sound : d.Sound) (decides : d.DecidesPinned)
    {w : World σ} (rest : w.AtRest clean) (t : TaskId) (settings : SolverSettings)
    (timeout : Timeout)
    (reportable : settings.witnessOnViolation = true →
      noticePeriodRange.unreportable d (some (timeout.getD settings.timeout)) = false)
    {r : Record} {values : FieldValues} (flat : r.fieldValues = .ok values) {s : String}
    (raw : values.raw? "col_notice_period" = some s) {blanks digits suffix : List Char}
    (count : PlainCount s.toList blanks digits suffix) (few : digits.length ≤ 4000) :
    let n := digitsValue digits
    ∃ (finding : Constraint → ConstraintFinding) (findings : List Finding) (f : Finding),
      (∀ cs specs, (w.checkAlone m t settings timeout r cs specs).1 =
        some (.ok ((cs ++ compileFieldRules specs).map finding))) ∧
      applyRules rules r = .ok findings ∧
      findings.filter (·.id == "rule_notice_period_range") = [f] ∧
      (f.satisfied = true ↔ (finding noticePeriodRange).outcome = .satisfied) ∧
      ((finding noticePeriodRange).outcome = .satisfied ↔ 30 ≤ n ∧ n ≤ 180) := by
  intro n
  obtain ⟨findings, applied⟩ := exists_findings values
  obtain ⟨rule, only, formula⟩ := filter_rules_noticePeriod
  have evaluated := outcome_noticePeriodFormula raw count few
  have bounds : 30 ≤ values.count "col_notice_period" ∧ values.count "col_notice_period" ≤ 180 ↔
      30 ≤ n ∧ n ≤ 180 := by
    rw [count_noticePeriod raw count few]
    omega
  have found := filter_findings applied "rule_notice_period_range"
  rw [only, mapM_eq_ok_iff] at found
  generalize kept : findings.filter (·.id == "rule_notice_period_range") = filtered at found
  cases found with
  | @cons _ f _ _ found none_after =>
    cases none_after
    have satisfied := (Rule.of_finding found).outcome_eq
    rw [formula, evaluated] at satisfied
    have verdict := noticePeriodRange_means.outcome sound decides reportable values
    have checked := fun cs specs =>
      (World.checkAlone_eq keeps rest t settings timeout r cs specs).1.trans
        (congrArg some (Record.onTexts_of_ok flat _))
    refine ⟨_, findings, f, checked, ?_, kept, ?_⟩
    · rw [applyRules, flat]
      exact applied
    · have decided := (iff_of_eq (congrArg (· = Outcome.satisfied) verdict)).trans
        (Outcome.decidedBy_eq_satisfied_iff.trans bounds)
      refine ⟨?_, decided⟩
      rw [← Except.ok.inj satisfied, decide_eq_true_eq]
      exact decided.symm

/-- A count with a leading zero of another script, and a word after it. -/
theorem notice_period_checks_agree_padded :
    let r : Record := .ofList [("col_notice_period", .text " ٠180 days")]
    (∃ findings f, applyRules rules r = .ok findings ∧
      findings.filter (·.id == "rule_notice_period_range") = [f] ∧ f.satisfied = true) ∧
    ((World.empty : World AssertionStack).checkAlone (.fresh AssertionStack.backend .empty false) 0
      ⟨5000, by decide, true⟩ none r [noticePeriodRange] []).1.map (·.map (List.map (·.outcome))) =
        some (.ok [.satisfied]) := by
  intro r
  have flat : r.fieldValues = .ok (.ofList [("col_notice_period", some " ٠180 days")]) := rfl
  have count : PlainCount " ٠180 days".toList [' '] ['٠', '1', '8', '0']
      (' ' :: "days".toList) := by
    refine ⟨by decide +kernel, List.all_eq_true.1 (by decide),
      List.all_eq_true.1 (by decide), by simp, ?_⟩
    rintro c ⟨⟩
    decide
  obtain ⟨finding, findings, f, checked, applied, only, agree, bounds⟩ :=
    notice_period_checks_agree (AssertionStack.keeps_fresh false) AssertionStack.sound_decider
      AssertionStack.decidesPinned_decider (.empty _) 0 ⟨5000, by decide, true⟩ none
      (fun _ => unreportable_constraint (by simp [constraints]) _) flat rfl count (by decide)
  have satisfied := bounds.2 (by decide)
  refine ⟨⟨findings, f, applied, only, agree.2 satisfied⟩, ?_⟩
  rw [checked]
  exact congrArg (fun outcome => some (Except.ok [outcome])) satisfied

end Catalog

end RecordAudit
