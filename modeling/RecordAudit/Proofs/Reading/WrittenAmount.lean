import RecordAudit.Proofs.Number.LeadingNumeral
import RecordAudit.Proofs.Number.Significant
import RecordAudit.Proofs.Reading.AmountText
import RecordAudit.Proofs.Reading.Exact

/-!
# Amounts in full

Fillers aside, an amount is written as a sign, digits with or without a point, and a suffix. An
amount of at most fifteen significant digits is read as exactly the number that it writes.
-/

namespace RecordAudit

open Number Text Reading

/-! ## What is written -/

/-- An amount without its fillers: an optional sign, digits of any script with an optional fraction,
and an optional suffix. There is a digit on one side of the point at least. -/
structure WrittenAmount where
  sign : Option Char
  whole : List Char
  fraction : Option (List Char)
  suffix : Option Char
  sign_mem : ∀ c ∈ sign, c ∈ ['-', '+']
  whole_decimal : ∀ c ∈ whole, isDecimal c = true
  fraction_decimal : ∀ c ∈ fraction.getD [], isDecimal c = true
  some_digit : whole ≠ [] ∨ fraction.getD [] ≠ []
  suffix_mem : ∀ c ∈ suffix, c ∈ ['K', 'k', 'M', 'm', '%']

namespace WrittenAmount

variable (t : WrittenAmount)

def places : List Char := t.fraction.getD []

def pointed : List Char := t.fraction.elim [] ('.' :: ·)

def digitChars : List Char := t.sign.toList ++ (t.whole ++ t.pointed)

def chars : List Char := t.digitChars ++ t.suffix.toList

def factor : Rat :=
  match t.suffix with
  | some 'K' | some 'k' => 1000
  | some 'M' | some 'm' => 1000000
  | some '%' => 1 / 100
  | _ => 1

def value : Rat :=
  (if t.sign = some '-' then -1 else 1) *
    (digitsValue (t.whole ++ t.places) / 10 ^ t.places.length) * t.factor

def numeral : Numeral := ⟨t.sign == some '-', digitsValue (t.whole ++ t.places), -t.places.length⟩

def scale : Scale := (t.suffix.bind Scale.ofChar?).getD .one

end WrittenAmount

/-! ## Characters -/

theorem Reading.Scale.ofChar?_eq_none {c : Char} (h : isDecimal c = true ∨ c ∈ ['-', '+', '.']) :
    Scale.ofChar? c = none := by
  unfold Scale.ofChar?
  split
  · exact absurd h (by decide)
  · exact absurd h (by decide)
  · exact absurd h (by decide)
  · exact absurd h (by decide)
  · exact absurd h (by decide)
  · rfl

namespace WrittenAmount

variable {t : WrittenAmount}

theorem mem_digits {c : Char} (h : c ∈ t.whole ++ t.pointed) : isDecimal c = true ∨ c = '.' := by
  rcases List.mem_append.1 h with whole | pointed
  · exact .inl (t.whole_decimal c whole)
  · have fraction := t.fraction_decimal c
    unfold WrittenAmount.pointed at pointed
    cases places : t.fraction with
    | none => simp [places] at pointed
    | some ds =>
      rw [places] at pointed fraction
      rcases List.mem_cons.1 pointed with point | digit
      · exact .inr point
      · exact .inl (fraction digit)

theorem ofChar?_of_mem {c : Char} (h : c ∈ t.digitChars) : Scale.ofChar? c = none := by
  apply Scale.ofChar?_eq_none
  rcases List.mem_append.1 h with sign | digits
  · have := t.sign_mem c (Option.mem_toList.1 sign)
    simp only [List.mem_cons] at this ⊢
    tauto
  · have := mem_digits digits
    simp only [List.mem_cons]
    tauto

/-! ## Reading -/

theorem splitScale_chars (t : WrittenAmount) : splitScale t.chars = (t.digitChars, t.scale) := by
  unfold splitScale chars scale
  cases h : t.suffix with
  | none =>
    have last : (t.digitChars ++ Option.toList none).getLast?.bind Scale.ofChar? = none := by
      rw [Option.toList_none, List.append_nil, Option.bind_eq_none_iff]
      exact fun c last => ofChar?_of_mem (List.mem_of_getLast? last)
    rw [last]
    simp
  | some c =>
    have known := t.suffix_mem c h
    obtain ⟨scale, named⟩ : ∃ scale, Scale.ofChar? c = some scale := by
      simp only [List.mem_cons, List.not_mem_nil, or_false] at known
      rcases known with rfl | rfl | rfl | rfl | rfl <;> exact ⟨_, rfl⟩
    simp [named]

theorem splitNumeral?_digitChars (t : WrittenAmount) :
    splitNumeral? t.digitChars = some (t.numeral, []) := by
  let n : WrittenNumeral :=
    ⟨t.sign, t.whole, t.fraction, none, t.sign_mem, t.whole_decimal,
      t.fraction_decimal, t.some_digit⟩
  have same_chars : t.digitChars = n.chars := by
    simp [digitChars, pointed, WrittenNumeral.chars, WrittenNumeral.pointed, n]
  have same_numeral : t.numeral = n.numeral := by
    simp [numeral, places, WrittenNumeral.numeral, WrittenNumeral.places, n]
  rw [same_chars, same_numeral, n.splitNumeral?_chars]

/-- Fillers anywhere, the text is read as the scaled numeral. -/
theorem scaledNumeral?_eq {cs : List Char} (written : stripAmount cs = t.chars)
    (limits : t.numeral.withinLimits = true) :
    scaledNumeral? cs = some (t.numeral.mul t.scale.factor) := by
  have kept : ∀ c ∈ t.digitChars, isBlank c = false := by
    intro c mem
    have filtered : c ∈ stripAmount cs := written ▸ List.mem_append_left _ mem
    have filler := (List.mem_filter.1 filtered).2
    simp only [isAmountFiller, Bool.not_or, Bool.and_eq_true, Bool.not_eq_true'] at filler
    exact filler.1
  rw [scaledNumeral?, written, splitScale_chars]
  simp [leadingNumeral?, trim_eq_self kept, splitNumeral?_digitChars, limits]

/-! ## Values -/

theorem value_factor (t : WrittenAmount) : t.scale.factor.value = t.factor := by
  have known := t.suffix_mem
  unfold scale factor
  cases h : t.suffix with
  | none => exact Scale.value_factor .one
  | some c =>
    have suffix := known c h
    simp only [List.mem_cons, List.not_mem_nil, or_false] at suffix
    rcases suffix with rfl | rfl | rfl | rfl | rfl <;> exact Scale.value_factor _

theorem value_numeral (t : WrittenAmount) : t.numeral.value * t.scale.factor.value = t.value := by
  rw [value_factor]
  unfold numeral Numeral.value value
  rw [tenPow_eq, zpow_neg, zpow_natCast, div_eq_mul_inv]
  by_cases h : t.sign = some '-' <;> simp [h]

/-- No suffix makes an amount less than a hundredth of its digits. -/
theorem abs_numeral_le (t : WrittenAmount) :
    |t.numeral.value| * (10 : Rat) ^ (-2 : Int) ≤ |t.value| := by
  have factor_ge : (10 : Rat) ^ (-2 : Int) ≤ t.factor := by
    unfold factor
    split <;> norm_num
  have factor_nonneg : 0 ≤ t.factor := (ten_zpow_pos _).le.trans factor_ge
  rw [← value_numeral, value_factor, abs_mul, abs_of_nonneg factor_nonneg]
  exact mul_le_mul_of_nonneg_left factor_ge (abs_nonneg _)

/-- An amount that is not too great, and whose places are not too many, lies inside the limits of
numerals. -/
theorem withinLimits_numeral (places : Numeral.minExponent ≤ -(t.places.length : Int))
    (moderate : t.value = 0 ∨ IsModerate t.value) : t.numeral.withinLimits = true := by
  have lead : t.numeral.leadingExponent ≤ 292 := by
    by_cases zero : t.numeral.coefficient = 0
    · have one_digit : digitCount 0 = 1 := rfl
      rw [Numeral.leadingExponent, zero, one_digit]
      simp only [numeral]
      omega
    · have first := (Numeral.abs_value_leadingExponent zero).1
      have upper : |t.value| ≤ (10 : Rat) ^ (290 : Int) := by
        rcases moderate with h | h
        · rw [h, abs_zero]
          exact (ten_zpow_pos 290).le
        · exact h.2
      have scaled : (10 : Rat) ^ (t.numeral.leadingExponent + -2) ≤ (10 : Rat) ^ (290 : Int) :=
        calc (10 : Rat) ^ (t.numeral.leadingExponent + -2)
            = (10 : Rat) ^ t.numeral.leadingExponent * (10 : Rat) ^ (-2 : Int) :=
              zpow_add₀ (by decide) _ _
          _ ≤ |t.numeral.value| * (10 : Rat) ^ (-2 : Int) :=
            mul_le_mul_of_nonneg_right first (ten_zpow_pos _).le
          _ ≤ |t.value| := t.abs_numeral_le
          _ ≤ (10 : Rat) ^ (290 : Int) := upper
      have := (zpow_le_zpow_iff_right₀ (by decide)).1 scaled
      omega
  simp only [Numeral.withinLimits, Bool.and_eq_true, decide_eq_true_eq]
  exact ⟨places, lead.trans (by decide)⟩

end WrittenAmount

/-- An amount of at most fifteen significant digits has as its value the number that its text
writes, whatever fillers the text holds. The bound on the digits after the point is that of
numerals, almost `2 * 10 ^ 18`: no text in memory is as long. -/
theorem amount_exact (t : WrittenAmount) (s : String) (written : stripAmount s.toList = t.chars)
    (places : Numeral.minExponent ≤ -(t.places.length : Int))
    (few : t.value = 0 ∨ HasDigits 15 t.value ∧ IsModerate t.value) :
    Kind.amount.sortValue (.ofTyped (Kind.amount.read (some s))) = .ok t.value := by
  have digits : HasDigits 15 t.value := by
    rcases few with zero | few
    · exact ⟨0, 0, by decide, by simp [zero]⟩
    · exact few.1
  have moderate := few.imp_right And.right
  have exact_product : (t.numeral.mul t.scale.factor).value = t.value := by
    rw [Numeral.value_mul (t.value_numeral ▸ digits), t.value_numeral]
  have decimal := Binary64.decimalValue?_ofNumeral (exact_product ▸ digits)
    (exact_product ▸ moderate)
  have amount : readAmount (some s) = Binary64.ofNumeral (t.numeral.mul t.scale.factor) := by
    have read := t.scaledNumeral?_eq written (t.withinLimits_numeral places moderate)
    simp [readAmount, read, Binary64.isFinite_of_decimalValue? decimal]
  rw [Kind.sortValue_read]
  change Except.ok ((readAmount (some s)).decimalValue?.getD 0) = _
  rw [amount, decimal, exact_product]
  rfl

theorem amount_exact_thousands :
    Kind.amount.sortValue (.ofTyped (Kind.amount.read (some "-$1,234.5 k"))) =
      .ok (-1234500 : Rat) := by
  let t : WrittenAmount :=
    { sign := some '-', whole := ['1', '2', '3', '4'], fraction := some ['5'], suffix := some 'k'
      sign_mem := by simp, suffix_mem := by simp, some_digit := by simp
      whole_decimal := List.all_eq_true.1 (by decide), fraction_decimal :=
        List.all_eq_true.1 (by decide) }
  have value : t.value = -1234500 := by decide +kernel
  have digits : HasDigits 15 t.value := ⟨12345, 2, by decide, by rw [value]; decide +kernel⟩
  have moderate : IsModerate t.value := by
    rw [IsModerate, value]
    decide +kernel
  have exact_value := amount_exact t "-$1,234.5 k" (by decide +kernel) (by decide)
    (.inr ⟨digits, moderate⟩)
  rw [exact_value, value]

end RecordAudit
