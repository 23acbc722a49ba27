import Mathlib.Algebra.Ring.Int.Defs
import RecordAudit.Proofs.Solver.Reported
import RecordAudit.Record

/-!
# Raw texts of records

A record has raw texts unless one of its cells holds an integer that is too long to be written. Then
there is one fault, and it is the same whatever else the record holds.
-/

namespace RecordAudit

variable {r : Record} {values : FieldValues} {v : Value} {fault : Fault}

theorem Value.presentText?_eq_error_iff :
    v.presentText? = .error fault ↔ v.hasLongInteger = true ∧ fault = .integerTextTooLong := by
  cases v with
  | null => simp [presentText?, hasLongInteger]
  | _ =>
    rw [presentText?]
    split
    · next long => simp only [Except.error.injEq, long, true_and, eq_comm]
    · next short => simp only [reduceCtorEq, short, Bool.false_eq_true, false_and]
    · nofun

/-- A cell has no text that can be written when a part of it that is looked at holds a long
integer. -/
theorem hasLongInteger_of_cellText? (failed : cellText? v = .error fault) :
    v.hasLongInteger = true ∧ fault = .integerTextTooLong := by
  unfold cellText? at failed
  split at failed
  · next entries =>
    split at failed
    · next content found =>
      obtain ⟨long, rfl⟩ := Value.presentText?_eq_error_iff.1 failed
      refine ⟨?_, rfl⟩
      rw [Value.hasLongInteger]
      clear failed
      induction entries with
      | nil => cases found
      | cons entry rest ih =>
        rw [List.lookup_cons] at found
        rw [Value.hasLongIntegerEntries, Bool.or_eq_true]
        split at found
        · obtain rfl := Option.some.inj found
          exact .inl long
        · exact .inr (ih found)
    · cases failed
  · next content =>
    obtain ⟨long, rfl⟩ := Value.presentText?_eq_error_iff.1 failed
    exact ⟨by rwa [Value.hasLongInteger], rfl⟩
  · exact Value.presentText?_eq_error_iff.1 failed

theorem cellText?_of_isLongInteger {i : Int} (long : Value.isLongInteger i = true) :
    cellText? (.int i) = .error .integerTextTooLong := by
  have same : cellText? (.int i) = (Value.int i).presentText? := rfl
  rw [same, Value.presentText?_eq_error_iff, Value.hasLongInteger]
  exact ⟨long, rfl⟩

/-- This is the first integer that is too long to be written. -/
theorem isLongInteger_ten_pow : Value.isLongInteger (10 ^ Fault.maxIntegerDigits) = true := by
  unfold Value.isLongInteger
  generalize Fault.maxIntegerDigits = digits
  exact decide_eq_true (Nat.le_of_eq (Int.natAbs_pow 10 digits).symm)

namespace Record

theorem fieldValues_eq :
    r.fieldValues = Assoc.ofList <$> r.entries.mapM fun entry =>
      (entry.1, ·) <$> cellText? entry.2 := by
  unfold fieldValues
  simp only [bind_pure_comp]

/-- A record without raw texts has a cell without a text that can be written. -/
theorem fieldValues_eq_error_iff :
    r.fieldValues = .error fault ↔
      fault = .integerTextTooLong ∧
        ∃ entry ∈ r.entries, cellText? entry.2 = .error .integerTextTooLong := by
  have failing : ∀ {fault}, r.fieldValues = .error fault → fault = .integerTextTooLong ∧
      ∃ entry ∈ r.entries, cellText? entry.2 = .error .integerTextTooLong := by
    intro fault failed
    rw [fieldValues_eq, except_map_eq_error_iff, mapM_eq_error_iff] at failed
    obtain ⟨before, entry, after, split, -, raised⟩ := failed
    have text := except_map_eq_error_iff.1 raised
    obtain ⟨-, rfl⟩ := hasLongInteger_of_cellText? text
    exact ⟨rfl, entry, by simp [split], text⟩
  refine ⟨failing, ?_⟩
  rintro ⟨rfl, entry, inside, text⟩
  cases flat : r.fieldValues with
  | error fault => rw [(failing flat).1]
  | ok values =>
    rw [fieldValues_eq, except_map_eq_ok_iff] at flat
    obtain ⟨texts, flattened, -⟩ := flat
    obtain ⟨entry', whole⟩ := exists_mapM_ok_iff.1 ⟨texts, flattened⟩ entry inside
    rw [text] at whole
    cases whole

end Record

end RecordAudit
