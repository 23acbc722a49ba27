import RecordAudit.Check.Basic
import RecordAudit.Proofs.Calendar.Day
import RecordAudit.Proofs.Number.Greatest
import RecordAudit.Proofs.Number.RoundTrip
import RecordAudit.Proofs.Text.Digit
import RecordAudit.Solver.Model

/-!
# Exact values

Every raw text gives for every kind a value of the kind's sort: truth values, integers, and for
amounts the fraction that the shortest decimal text writes. All of them can be bound and reported.
-/

namespace RecordAudit

open Reading Number Text Calendar

/-! ## Values that can be reported -/

theorem boundedInteger_eq {i : Int} (h : digitCount i.natAbs ≤ 4300) :
    boundedInteger i = .ok i := by
  have few : ¬ Fault.maxIntegerDigits < digitCount i.natAbs := Nat.not_lt.2 h
  rw [boundedInteger, if_neg few]

namespace VariableSort

variable {q : Rat}

theorem reported_real (num : digitCount q.num.natAbs ≤ 4300) (den : digitCount q.den ≤ 4300)
    (finite : (Binary64.ofRat q).isFinite = true) :
    VariableSort.reported .real q = .ok (.float (.ofRat q)) := by
  have num_fits := boundedInteger_eq num
  have den_fits := boundedInteger_eq (i := q.den) den
  simp only [VariableSort.reported, num_fits, den_fits, finite]
  rfl

theorem isOk_reported_of_lt (num : q.num.natAbs < 10 ^ 200) (den : q.den < 10 ^ 200) :
    (VariableSort.reported .real q).isOk = true := by
  have few : ∀ {n : Nat}, n < 10 ^ 200 → digitCount n ≤ 4300 := fun h =>
    Nat.le_trans ((digitCount_le_iff (by decide)).2 h) (by decide)
  rw [reported_real (few num) (few den) (Binary64.isFinite_ofRat_of_lt num)]
  rfl

theorem isOk_reported_of_ge (h : 2 * 10 ^ 308 ≤ |q|) :
    (VariableSort.reported .real q).isOk = false := by
  have infinite := Binary64.isFinite_ofRat_eq_false h
  simp only [VariableSort.reported, infinite]
  cases boundedInteger q.num with
  | error fault => rfl
  | ok n => cases boundedInteger q.den <;> rfl

theorem isOk_reported_ten_pow : (VariableSort.reported .real (10 ^ 400 : Rat)).isOk = false := by
  refine isOk_reported_of_ge (le_trans ?_ (le_abs_self _))
  calc (2 * 10 ^ 308 : Rat) ≤ 10 ^ 92 * 10 ^ 308 :=
    mul_le_mul_of_nonneg_right (by norm_num) (by positivity)
    _ = 10 ^ 400 := (pow_add _ _ _).symm

end VariableSort

namespace Reading

theorem digitCount_readCount_le (raw : Option String) :
    digitCount (readCount raw).natAbs ≤ 4300 := by
  cases raw with
  | none => decide
  | some s =>
    unfold readCount
    dsimp only
    split
    · next short =>
      have few := (digitCount_le_iff (by decide)).2
        (Nat.lt_of_lt_of_le (digitsValue_lt (firstDigitRun s.toList))
          (Nat.pow_le_pow_right (by decide) short))
      rw [Int.natAbs_natCast]
      exact Nat.le_trans few (by decide)
    · decide

theorem digitCount_readDay_le (raw : Option String) : digitCount (readDay raw).natAbs ≤ 4300 := by
  unfold readDay
  split
  · next date found =>
    obtain ⟨s, -, read⟩ := Option.bind_eq_some_iff.1 found
    obtain ⟨spelling, -, read⟩ := List.exists_of_findSome?_eq_some read
    have valid : date.isValid = true := by
      unfold Spelling.read? at read
      split at read
      · split at read
        · next valid => exact Option.some.inj read ▸ valid
        · cases read
      · cases read
    exact Nat.le_trans ((digitCount_le_iff (by decide)).2 (Date.natAbs_dayNumber_lt valid))
      (by decide)
  · decide

theorem isFinite_readAmount (raw : Option String) : (readAmount raw).isFinite = true := by
  unfold readAmount
  split
  · rfl
  · dsimp only
    split
    · assumption
    · rfl

namespace Kind

/-- The value of a kind's sort that a raw text gives, without rounding. -/
def exact (kind : Kind) (raw : Option String) : kind.sort.Carrier :=
  match kind with
  | .flag => readFlag raw
  | .presence => readPresence raw
  | .count => readCount raw
  | .date => readDay raw
  | .amount => ((readAmount raw).decimalValue?).getD (0 : Rat)

/-- The amount that is read is always a finite number, which has a decimal. -/
theorem decimalValue?_readAmount (raw : Option String) :
    (readAmount raw).decimalValue? = some (Kind.amount.exact raw) := by
  obtain ⟨q, value, -⟩ := Binary64.exists_decimalValue (isFinite_readAmount raw)
  change _ = some (((readAmount raw).decimalValue?).getD (0 : Rat))
  rw [value]
  rfl

theorem exact_amount_none : Kind.amount.exact none = (0 : Rat) := by
  change ((Binary64.zero false).decimalValue?).getD (0 : Rat) = 0
  rw [Binary64.decimalValue?_zero]
  rfl

theorem sortValue_read (kind : Kind) (raw : Option String) :
    kind.sortValue (.ofTyped (kind.read raw)) = .ok (kind.exact raw) := by
  cases kind with
  | flag | presence | count | date => rfl
  | amount =>
    change Value.toFraction (.float (readAmount raw)) = .ok (Kind.amount.exact raw)
    unfold Value.toFraction Value.toBinary64
    simp only [bind, Except.bind, decimalValue?_readAmount]

theorem binding_read (kind : Kind) (name : String) (raw : Option String) :
    kind.binding name (kind.read raw) = .ok (kind.sort.equals name (kind.exact raw)) := by
  rw [binding, sortValue_read]
  rfl

theorem reported_exact (kind : Kind) (raw : Option String) :
    ∃ v, kind.sort.reported (kind.exact raw) = .ok v := by
  cases kind with
  | flag | presence => exact ⟨_, rfl⟩
  | count =>
    have bounded := boundedInteger_eq (digitCount_readCount_le raw)
    exact ⟨.int (readCount raw), by
      change (boundedInteger (readCount raw) >>= _) = _; rw [bounded]; rfl⟩
  | date =>
    have bounded := boundedInteger_eq (digitCount_readDay_le raw)
    exact ⟨.int (readDay raw), by
      change (boundedInteger (readDay raw) >>= _) = _; rw [bounded]; rfl⟩
  | amount =>
    obtain ⟨q, value, num, den, finite⟩ := Binary64.exists_decimalValue (isFinite_readAmount raw)
    have exact_eq : exact .amount raw = q := by
      change ((readAmount raw).decimalValue?).getD 0 = q
      rw [value]
      rfl
    rw [exact_eq]
    exact ⟨.float (.ofRat q), VariableSort.reported_real num den finite⟩

end Kind

end Reading

end RecordAudit
