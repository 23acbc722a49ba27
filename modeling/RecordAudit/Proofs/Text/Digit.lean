import Mathlib.Tactic.IntervalCases
import Mathlib.Tactic.Ring
import RecordAudit.Text.Digit

/-!
# Numbers that digits write

A run of digits writes the sum of its digits, each times the power of ten of its place. The decimal
digits of a number write the number.
-/

namespace RecordAudit.Text

/-! ## Digits of ASCII -/

theorem digitValue?_digitChar {k : Nat} (h : k < 10) : digitValue? k.digitChar = some k := by
  interval_cases k <;> decide

theorem isDecimal_digitChar {k : Nat} (h : k < 10) : isDecimal k.digitChar = true := by
  rw [isDecimal, digitValue?_digitChar h]
  rfl

/-! ## Places -/

/-- The sum of the digits, each times the power of ten of its place; the last place is that of
ones. -/
def placeValue : List Char → Nat
  | [] => 0
  | c :: rest => (digitValue? c).getD 0 * 10 ^ rest.length + placeValue rest

/-- What was read before counts by as many places as there are digits to come. -/
theorem foldl_digits (cs : List Char) (n : Nat) :
    cs.foldl (fun n c => 10 * n + (digitValue? c).getD 0) n = n * 10 ^ cs.length +
      placeValue cs := by
  induction cs generalizing n with
  | nil => simp [placeValue]
  | cons c rest ih =>
    rw [List.foldl_cons, ih, placeValue, List.length_cons]
    ring

theorem digitsValue_eq_placeValue (cs : List Char) : digitsValue cs = placeValue cs := by
  rw [digitsValue, foldl_digits, Nat.zero_mul, Nat.zero_add]

theorem digitsValue_concat (cs : List Char) (c : Char) :
    digitsValue (cs ++ [c]) = 10 * digitsValue cs + (digitValue? c).getD 0 := by
  simp [digitsValue]

theorem placeValue_lt (cs : List Char) : placeValue cs < 10 ^ cs.length := by
  induction cs with
  | nil => decide
  | cons c rest ih =>
    have digit : (digitValue? c).getD 0 ≤ 9 := by
      cases e : digitValue? c with
      | none => decide
      | some v => exact Nat.le_of_lt_succ (digitValue?_lt e)
    calc placeValue (c :: rest) = (digitValue? c).getD 0 * 10 ^ rest.length + placeValue rest := rfl
      _ < 9 * 10 ^ rest.length + 10 ^ rest.length :=
        Nat.add_lt_add_of_le_of_lt (Nat.mul_le_mul_right _ digit) ih
      _ = 10 ^ (rest.length + 1) := by ring

theorem digitsValue_lt (cs : List Char) : digitsValue cs < 10 ^ cs.length :=
  digitsValue_eq_placeValue cs ▸ placeValue_lt cs

/-! ## Decimals of numbers -/

theorem digitsValue_toDigits (n : Nat) : digitsValue (Nat.toDigits 10 n) = n := by
  induction n using Nat.strongRecOn with
  | ind n ih =>
    rw [Nat.toDigits_eq_if (by decide)]
    split
    · next small => simp [digitsValue, digitValue?_digitChar small]
    · next large =>
      have last : n % 10 < 10 := Nat.mod_lt n (by decide)
      rw [digitsValue_concat, ih (n / 10) (by omega), digitValue?_digitChar last, Option.getD_some]
      omega

theorem isDecimal_of_mem_toDigits (n : Nat) : ∀ c ∈ Nat.toDigits 10 n, isDecimal c = true := by
  induction n using Nat.strongRecOn with
  | ind n ih =>
    intro c mem
    rw [Nat.toDigits_eq_if (by decide)] at mem
    split at mem
    · next small =>
      rw [List.mem_singleton.1 mem]
      exact isDecimal_digitChar small
    · rcases List.mem_append.1 mem with before | last
      · exact ih (n / 10) (by omega) c before
      · rw [List.mem_singleton.1 last]
        exact isDecimal_digitChar (Nat.mod_lt n (by decide))

end RecordAudit.Text
