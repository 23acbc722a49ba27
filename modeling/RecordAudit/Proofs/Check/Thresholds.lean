import RecordAudit.Proofs.Check.FieldRules
import RecordAudit.Proofs.Reading.WrittenAmount

/-!
# Thresholds that are read, rejected, or taken for zero

A threshold given as text is read like an amount once there is a figure in it. Whatever can be read
as an amount has a figure, so no such threshold is rejected. A figure alone does not make a number:
a text that has one, and does not begin with a number that can be read, is taken for zero.
-/

namespace RecordAudit

open Number Text Reading

/-! ## Numbers at the start of a text -/

namespace Number

/-- A decimal number begins the text: after an optional sign stands a digit, or a point and a
digit. -/
def BeginsWithNumber (cs : List Char) : Prop :=
  ∃ sign point d rest, cs = sign ++ (point ++ d :: rest) ∧ sign ∈ [[], ['-'], ['+']] ∧
    point ∈ [[], ['.']] ∧ isDecimal d = true

theorem isSome_splitSignificand?_iff (cs : List Char) :
    (splitSignificand? cs).isSome = true ↔
      ∃ point d rest, cs = point ++ d :: rest ∧ point ∈ [[], ['.']] ∧ isDecimal d = true := by
  have point_no_digit : isDecimal '.' = false := by decide
  constructor
  · intro split
    cases cs with
    | nil => cases split
    | cons c rest =>
      by_cases digit : isDecimal c = true
      · exact ⟨[], c, rest, rfl, by simp, digit⟩
      · -- without a digit in front there has to be a point
        have none_before : splitDigits (c :: rest) = ([], c :: rest) := by simp [splitDigits, digit]
        unfold splitSignificand? at split
        rw [none_before] at split
        by_cases point : c = '.'
        · subst point
          cases rest with
          | nil => simp [splitDigits] at split
          | cons d rest =>
            refine ⟨['.'], d, rest, rfl, by simp, ?_⟩
            by_contra no_digit
            simp [splitDigits, no_digit] at split
        · simp [point] at split
  · rintro ⟨point, d, rest, rfl, mem, digit⟩
    simp only [List.mem_cons, List.not_mem_nil, or_false] at mem
    unfold splitSignificand?
    rcases mem with rfl | rfl
    · simp only [splitDigits, List.nil_append, List.takeWhile_cons, List.dropWhile_cons,
        digit, if_true]
      split <;> simp_all
    · simp [splitDigits, point_no_digit, digit]

theorem isSome_splitNumeral?_iff (cs : List Char) : (splitNumeral? cs).isSome = true ↔
    BeginsWithNumber cs := by
  have unfolded : (splitNumeral? cs).isSome = (splitSignificand? (splitSign cs).2).isSome := by
    unfold splitNumeral?
    cases h : splitSignificand? (splitSign cs).2 <;> simp [h]
  rw [unfolded, isSome_splitSignificand?_iff]
  constructor
  · rintro ⟨point, d, rest, split, isPoint, digit⟩
    unfold splitSign at split
    split at split
    · exact ⟨['-'], point, d, rest, by simpa using split, by simp, isPoint, digit⟩
    · exact ⟨['+'], point, d, rest, by simpa using split, by simp, isPoint, digit⟩
    · exact ⟨[], point, d, rest, split, by simp, isPoint, digit⟩
  · rintro ⟨sign, point, d, rest, rfl, isSign, isPoint, digit⟩
    refine ⟨point, d, rest, ?_, isPoint, digit⟩
    simp only [List.mem_cons, List.not_mem_nil, or_false] at isSign
    rcases isSign with rfl | rfl | rfl
    · have unsigned : ∀ c ∈ (point ++ d :: rest).head?, c ≠ '-' ∧ c ≠ '+' := by
        intro c first
        simp only [List.mem_cons, List.not_mem_nil, or_false] at isPoint
        rcases isPoint with rfl | rfl
        · obtain rfl : d = c := Option.some.inj first
          exact ⟨by rintro rfl; exact absurd digit (by decide), by
            rintro rfl; exact absurd digit (by decide)⟩
        · obtain rfl : '.' = c := Option.some.inj first
          decide
      rw [List.nil_append, splitSign_eq_self unsigned]
    · rfl
    · rfl

theorem BeginsWithNumber.exists_digit {cs : List Char} (begins : BeginsWithNumber cs) :
    ∃ d ∈ cs, isDecimal d = true := by
  obtain ⟨sign, point, d, rest, rfl, -, -, digit⟩ := begins
  exact ⟨d, by simp, digit⟩

end Number

/-! ## Amounts that are read -/

namespace Reading

/-- The text is read as the number: what stands before the suffix begins with a numeral inside the
limits of numerals, and the numeral times the scale of the suffix is the number, which is finite. -/
def ReadsAs (s : String) (x : Binary64) : Prop :=
  ∃ n rest, splitNumeral? (amountParts s).1 = some (n, rest) ∧ n.withinLimits = true ∧
    Binary64.ofNumeral (n.mul (amountParts s).2.factor) = x ∧ x.isFinite = true

variable {s : String} {x : Binary64}

theorem ReadsAs.readAmount (reads : ReadsAs s x) : readAmount (some s) = x := by
  obtain ⟨n, rest, split, limits, rfl, finite⟩ := reads
  have numeral : scaledNumeral? s.toList = some (n.mul (amountParts s).2.factor) := by
    simp [scaledNumeral?_amountParts, leadingNumeral?, trim_amountParts, split, limits]
  simp [Reading.readAmount, numeral, finite]

theorem readAmount_of_not_readsAs (unread : ∀ x, ¬ReadsAs s x) :
    readAmount (some s) = .zero false := by
  unfold readAmount
  rw [Option.bind_some, scaledNumeral?_amountParts, leadingNumeral?, trim_amountParts]
  cases split : splitNumeral? (amountParts s).1 with
  | none => rfl
  | some found =>
    obtain ⟨n, rest⟩ := found
    by_cases limits : n.withinLimits = true
    · have infinite : (Binary64.ofNumeral (n.mul (amountParts s).2.factor)).isFinite = false := by
        by_contra finite
        exact unread _ ⟨n, rest, split, limits, rfl, by simpa using finite⟩
      simp [limits, infinite]
    · simp [limits]

theorem ReadsAs.any_isFigure (reads : ReadsAs s x) : s.toList.any isFigure = true := by
  obtain ⟨n, rest, split, -⟩ := reads
  have begins : BeginsWithNumber (amountParts s).1 :=
    (isSome_splitNumeral?_iff _).1 (by rw [split]; rfl)
  obtain ⟨d, mem, digit⟩ := begins.exists_digit
  exact List.any_eq_true.2 ⟨d, (mem_amountParts mem).1, by simp [isFigure, digit]⟩

end Reading

/-! ## Thresholds -/

instance Comparison.decidableHolds {α : Type} [LinearOrder α] (c : Comparison) (a b : α) :
    Decidable (c.Holds a b) :=
  match c with
  | .gt => inferInstanceAs (Decidable (b < a))
  | .lt => inferInstanceAs (Decidable (a < b))
  | .eq => inferInstanceAs (Decidable (a = b))
  | .ne => inferInstanceAs (Decidable (a ≠ b))
  | .ge => inferInstanceAs (Decidable (b ≤ a))
  | .le => inferInstanceAs (Decidable (a ≤ b))

theorem verdictOf_eq_decidedBy (amount limit : Rat) (c : Comparison) :
    verdictOf amount limit c = .decidedBy (c.Holds amount limit) := by
  have holds : c.allows (Numeric.order .real amount limit) = true ↔ c.Holds amount limit :=
    Numeric.compare_real_iff
  simp only [verdictOf, Outcome.decidedBy, holds]

theorem readThreshold_eq_error {s : String} (h : s.toList.any isFigure = false) :
    readThreshold (.text s) = .error (.unreadableThreshold (.text s)) := by
  have figures := any_isFigure_trim s.toList
  simp [readThreshold, Value.plain, figures, h]

theorem FieldSpec.concluded_constraint_rejected {d : Decider} {spec : FieldSpec} {rule : FieldRule}
    {fault : Fault} (rejected : readThreshold rule.threshold = .error fault) (witnessed : Bool)
    (timeout : Timeout) (values : FieldValues) :
    (spec.constraint rule).concluded d.judge witnessed timeout values =
      (spec.constraint rule).failedFinding fault := by
  rw [Constraint.concluded, Constraint.examined_eq, Constraint.expressions_fieldRule, rejected]
  rfl

/-- A threshold in which a number can be read is that number, and without a figure it is rejected,
so that the rule comes to an error and nothing else does. The test is for a figure anywhere, though:
with one, a text that does not begin with a number, or begins with one that is out of range, is
compared as zero. When witnesses are asked for, the models that the solver finds for such rules have
to be reportable. -/
theorem threshold_read_or_rejected {σ : Type} {m : Surroundings σ} {d : Decider} {clean : σ → Prop}
    (keeps : m.Keeps d.judge.replies clean) (sound : d.Sound) (decides : d.DecidesPinned)
    {w : World σ} (rest : w.AtRest clean) (t : TaskId) (settings : SolverSettings)
    (timeout : Timeout)
    (reportable : settings.witnessOnViolation = true → ∀ (spec : FieldSpec) rule,
      (spec.constraint rule).unreportable d (some (timeout.getD settings.timeout)) = false) (s :
      String) :
    ∃ finding : FieldValues → Constraint → ConstraintFinding,
      (∀ r cs specs, (w.checkAlone m t settings timeout r cs specs).1 =
        some (r.onTexts fun values => (cs ++ compileFieldRules specs).map (finding values))) ∧
      ((splitNumeral? (amountParts s).1).isSome = true ↔ BeginsWithNumber (amountParts s).1) ∧
      ∀ (values : FieldValues) (spec : FieldSpec) (rule : FieldRule), rule.threshold = .text s →
        ∃ amount, (readAmount (values.raw? spec.id)).decimalValue? = some amount ∧
          let found := finding values (spec.constraint rule)
          (∀ x, ReadsAs s x → readThreshold (.text s) = .ok x ∧
            ∃ limit, x.decimalValue? = some limit ∧
            found.outcome = .decidedBy (rule.comparison.Holds amount limit)) ∧
          ((∀ x, ¬ReadsAs s x) → s.toList.any isFigure = false →
            readThreshold (.text s) = .error (.unreadableThreshold (.text s)) ∧
              found = (spec.constraint rule).failedFinding (.unreadableThreshold (.text s))) ∧
          ((∀ x, ¬ReadsAs s x) → s.toList.any isFigure = true →
            readThreshold (.text s) = .ok (.zero false) ∧
              found.outcome = .decidedBy (rule.comparison.Holds amount 0)) := by
  refine ⟨_, fun r cs specs => (World.checkAlone_eq keeps rest t settings timeout r cs specs).1,
    isSome_splitNumeral?_iff _, fun values spec rule same => ?_⟩
  let amount : Rat := Kind.amount.exact (values.raw? spec.id)
  have compared : ∀ {x : Binary64} {limit : Rat}, readThreshold (.text s) = .ok x →
      x.decimalValue? = some limit →
        (d.judge.finding settings timeout values (spec.constraint rule)).outcome =
            .decidedBy (rule.comparison.Holds amount limit) := by
    intro x limit read value
    have outcome := spec.outcome_constraint sound decides (fun witnessed =>
      reportable witnessed spec rule) (same ▸ read) value values
    exact outcome.trans (verdictOf_eq_decidedBy amount limit rule.comparison)
  refine ⟨amount, Kind.decimalValue?_readAmount _, fun x reads => ?_, fun _ no_figure => ?_,
    fun unread figure => ?_⟩
  · have read : readThreshold (.text s) = .ok x := by
      rw [readThreshold_text reads.any_isFigure, reads.readAmount]
    obtain ⟨n, rest, -, -, -, finite⟩ := reads
    obtain ⟨limit, value, -⟩ := Binary64.exists_decimalValue finite
    exact ⟨read, limit, value, compared read value⟩
  · have rejected := readThreshold_eq_error no_figure
    exact ⟨rejected, FieldSpec.concluded_constraint_rejected (same ▸ rejected) _ _ _⟩
  · have read : readThreshold (.text s) = .ok (.zero false) := by
      rw [readThreshold_text figure, readAmount_of_not_readsAs unread]
    exact ⟨read, compared read (Binary64.decimalValue?_zero false)⟩

/-- A superscript is a figure and no digit, so that an area of 20 is found to be at least `m²`. A
number with a scale is read, and a text without figures is an error. -/
theorem threshold_read_or_rejected_superscript :
    let outcome := fun threshold : String =>
      ((World.empty : World AssertionStack).checkAlone (.fresh AssertionStack.backend .empty false)
        0 ⟨5000, by decide, true⟩ none (.ofList [("area", .text "20")]) []
        [⟨"area", "Area", .number, [⟨"min", .ge, .text threshold, none⟩]⟩]).1.map
          (·.map (List.map (·.outcome)))
    outcome "m²" = some (.ok [.satisfied]) ∧ outcome "$1.5k" = some (.ok [.violated]) ∧
      outcome "lots" = some (.ok [.error]) := by
  intro outcome
  let spec := fun threshold : String =>
    (⟨"area", "Area", .number, [⟨"min", .ge, .text threshold, none⟩]⟩ : FieldSpec)
  have found := threshold_read_or_rejected (AssertionStack.keeps_fresh false)
    AssertionStack.sound_decider AssertionStack.decidesPinned_decider (.empty _) 0
      ⟨5000, by decide, true⟩ none
    fun _ spec rule => spec.unreportable_constraint rule _
  let r : Record := .ofList [("area", .text "20")]
  let values : FieldValues := .ofList [("area", some "20")]
  have area : ∀ amount : Rat, (readAmount (some "20")).decimalValue? = some amount →
      amount = 20 := by
    intro amount read
    have value : (readAmount (some "20")).decimalValue? = some 20 := by decide +kernel
    exact Option.some.inj (read.symm.trans value)
  refine ⟨?_, ?_, ?_⟩
  · obtain ⟨finding, checked, -, each⟩ := found "m²"
    obtain ⟨amount, read, -, -, zero⟩ := each values (spec "m²") ⟨"min", .ge, .text "m²", none⟩ rfl
    have unread : ∀ x, ¬ReadsAs "m²" x := by
      rintro x ⟨n, rest, split, -⟩
      have no_number : splitNumeral? (amountParts "m²").1 = none := by decide
      rw [no_number] at split
      cases split
    have compared := (zero unread (by decide +kernel)).2
    rw [area amount read] at compared
    exact (congrArg (Option.map _) (checked r [] [spec "m²"])).trans
      (congrArg (fun o => some (Except.ok [o])) (compared.trans (by decide +kernel)))
  · obtain ⟨finding, checked, -, each⟩ := found "$1.5k"
    obtain ⟨amount, read, reads, -, -⟩ :=
      each values (spec "$1.5k") ⟨"min", .ge, .text "$1.5k", none⟩ rfl
    have limit_value : (readAmount (some "$1.5k")).decimalValue? = some 1500 := by decide +kernel
    have written : ReadsAs "$1.5k" (readAmount (some "$1.5k")) :=
      ⟨⟨false, 15, -1⟩, [], by decide +kernel, by decide, by decide +kernel, by decide +kernel⟩
    obtain ⟨-, limit, value, compared⟩ := reads _ written
    rw [area amount read, Option.some.inj (value.symm.trans limit_value)] at compared
    exact (congrArg (Option.map _) (checked r [] [spec "$1.5k"])).trans
      (congrArg (fun o => some (Except.ok [o])) (compared.trans (by decide +kernel)))
  · obtain ⟨finding, checked, -, each⟩ := found "lots"
    obtain ⟨amount, read, -, rejected, -⟩ :=
      each values (spec "lots") ⟨"min", .ge, .text "lots", none⟩ rfl
    have unread : ∀ x, ¬ReadsAs "lots" x :=
      fun x reads => absurd reads.any_isFigure (by decide +kernel)
    have failed := congrArg ConstraintFinding.outcome (rejected unread (by decide +kernel)).2
    exact (congrArg (Option.map _) (checked r [] [spec "lots"])).trans
      (congrArg (fun o => some (Except.ok [o])) failed)

end RecordAudit
