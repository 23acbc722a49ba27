import RecordAudit.Proofs.Number.Decimal
import RecordAudit.Proofs.Number.LeadingNumeral
import RecordAudit.Proofs.Text.Digit
import RecordAudit.Reading.Count

/-!
# The first count of a text

A count is read from the first run of digits in a text, whatever stands around it and whatever
script its digits are of. So a number that is written into a text without digits before it is read
back.
-/

namespace RecordAudit

open Text Number Reading

/-! ## Runs of digits -/

/-- The first run of digits begins at the first digit and ends before the next character that is
none. -/
theorem Reading.firstDigitRun_append {before digits after : List Char}
    (none_before : ∀ c ∈ before, isDecimal c = false) (decimal : ∀ c ∈ digits, isDecimal c = true)
    (some_digit : digits ≠ []) (stop : ∀ c ∈ after.head?, isDecimal c = false) :
    firstDigitRun (before ++ (digits ++ after)) = digits := by
  obtain ⟨d, ds, rfl⟩ := List.exists_cons_of_ne_nil some_digit
  have first : (d :: ds ++ after).dropWhile (!isDecimal ·) = d :: ds ++ after := by
    simp [decimal d List.mem_cons_self]
  rw [firstDigitRun, List.dropWhile_append_of_pos (fun c mem => by simp [none_before c mem]), first]
  exact congrArg Prod.fst (splitDigits_append decimal stop)

theorem Reading.firstDigitRun_eq_nil {cs : List Char}
    (none_decimal : ∀ c ∈ cs, isDecimal c = false) :
    firstDigitRun cs = [] := by
  have all_dropped : cs.dropWhile (!isDecimal ·) = [] := by
    rw [List.dropWhile_eq_nil_iff]
    exact fun c mem => by simp [none_decimal c mem]
  rw [firstDigitRun, all_dropped]
  rfl

/-- A text with a digit: the characters before the first run of digits, the run, and what follows
it. -/
structure CountText where
  before : List Char
  digits : List Char
  after : List Char
  none_before : ∀ c ∈ before, isDecimal c = false
  decimal : ∀ c ∈ digits, isDecimal c = true
  some_digit : digits ≠ []
  stop : ∀ c ∈ after.head?, isDecimal c = false

namespace CountText

def text (t : CountText) : String := String.ofList (t.before ++ (t.digits ++ t.after))

/-- The digits are read as the number that they write, unless there are too many. -/
theorem readCount_text (t : CountText) :
    readCount (some t.text) = if t.digits.length ≤ maxCountDigits
      then (placeValue t.digits : Int) else 0 := by
  have run := firstDigitRun_append t.none_before t.decimal t.some_digit t.stop
  simp [readCount, text, run, digitsValue_eq_placeValue]

/-- A number written in decimal digits, with other texts around it. -/
def ofNat (n : Nat) (before after : List Char) (none_before : ∀ c ∈ before, isDecimal c = false)
    (stop : ∀ c ∈ after.head?, isDecimal c = false) : CountText :=
  ⟨before, Nat.toDigits 10 n, after, none_before, isDecimal_of_mem_toDigits n,
    Nat.toDigits_ne_nil, stop⟩

end CountText

/-! ## The theorem -/

/-- The count that is read is what the first run of digits writes when it has at most 4000 digits,
and zero when it has more or when there is no digit. A number below `10 ^ 4000` is read from every
text in which it is written before all other digits and is not followed by one. No count is
negative. -/
theorem first_count_read :
    (∀ t : CountText, readCount (some t.text) = if t.digits.length ≤ 4000
      then (placeValue t.digits : Int) else 0) ∧
        (∀ s : String, (∀ c ∈ s.toList, isDecimal c = false) → readCount (some s) = 0) ∧
      readCount none = 0 ∧
      (∀ (n : Nat) (before after : String), n < 10 ^ 4000 →
        (∀ c ∈ before.toList, isDecimal c = false) →
        (∀ c ∈ after.toList.head?, isDecimal c = false) →
        readCount (some (before ++ toString n ++ after)) = n) ∧
      ∀ raw : Option String, 0 ≤ readCount raw := by
  refine ⟨CountText.readCount_text, fun s none_decimal => ?_, rfl,
    fun n before after few none_before stop => ?_, fun raw => ?_⟩
  · rw [readCount, firstDigitRun_eq_nil none_decimal]
    rfl
  · let t := CountText.ofNat n before.toList after.toList none_before stop
    have written : before ++ toString n ++ after = t.text := by
      apply String.toList_inj.1
      simp [t, CountText.text, CountText.ofNat]
    have short : t.digits.length ≤ maxCountDigits :=
      (digitCount_le_iff (k := 4000) (by decide)).2 few
    have value : placeValue t.digits = n := by
      rw [← digitsValue_eq_placeValue]
      exact digitsValue_toDigits n
    rw [written, t.readCount_text, if_pos short, value]
  · cases raw with
    | none => exact Int.le_refl 0
    | some s =>
      unfold readCount
      dsimp only
      split
      · exact Int.natCast_nonneg _
      · exact Int.le_refl 0

/-- Digits of another script, a sign that is not read, and digits that come too late. -/
theorem first_count_read_months :
    readCount (some "about -٠٢٤ months, 3 days") = 24 ∧
      readCount (some ("term: " ++ toString 24 ++ " months")) = 24 ∧
      readCount (some "n/a") = 0 := by
  obtain ⟨runs, none_decimal, -, written, -⟩ := first_count_read
  have none_of_all : ∀ cs : List Char, cs.all (!isDecimal ·) = true →
    ∀ c ∈ cs, isDecimal c = false := by simp
  have stop_of_head : ∀ cs : List Char, cs.head?.all (!isDecimal ·) = true →
      ∀ c ∈ cs.head?, isDecimal c = false := by
    intro cs all c first
    rw [Option.mem_def.1 first] at all
    simpa using all
  let t : CountText :=
    { before := "about -".toList, digits := "٠٢٤".toList, after := " months, 3 days".toList
      none_before := none_of_all _ (by decide)
      decimal := List.all_eq_true.1 (by decide)
      some_digit := by decide
      stop := stop_of_head _ (by decide) }
  have few : 24 < 10 ^ 4000 := (digitCount_le_iff (n := 24) (k := 4000) (by decide)).1 (by decide)
  exact ⟨(runs t).trans rfl,
    written 24 "term: " " months" few (none_of_all _ (by decide)) (stop_of_head _ (by decide)),
    none_decimal "n/a" (none_of_all _ (by decide))⟩

end RecordAudit
