import RecordAudit.Formula.Evaluation
import RecordAudit.Proofs.Number.LeadingNumeral
import RecordAudit.Proofs.Number.Nearest
import RecordAudit.Proofs.Reading.AmountText
import RecordAudit.Proofs.Reading.Exact

/-!
# Scaled amounts

The numeral of an amount is multiplied by what the suffix stands for, and the product is rounded to
the nearest floating-point number. Where the numeral has at most 28 significant digits the product
is exact, so that rounding happens once. Numerals beyond the limits are far from the numbers that an
amount can be.

## Main definitions

* `AmountSplit`: the characters of an amount without its fillers, as a text and a suffix.
* `suffixFactor`: what the suffix multiplies by.
-/

namespace RecordAudit

open Number Text Reading

/-! ## Suffixes -/

/-- The amount without its fillers is the text with the suffix after it. There is no suffix only
where the last character is none. -/
structure AmountSplit (s : String) (text : List Char) (suffix : Option Char) : Prop where
  chars : s.toList.filter (!isAmountFiller ·) = text ++ suffix.toList
  suffix_mem : ∀ c ∈ suffix, c ∈ ['K', 'k', 'M', 'm', '%']
  unscaled : suffix = none → ∀ c ∈ text.getLast?, c ∉ ['K', 'k', 'M', 'm', '%']

/-- What the suffix multiplies by. -/
def suffixFactor : Option Char → Rat
  | some 'K' | some 'k' => 1000
  | some 'M' | some 'm' => 1000000
  | some '%' => 1 / 100
  | _ => 1

theorem AmountSplit.unique {s : String} {text text' : List Char} {suffix suffix' : Option Char}
    (h : AmountSplit s text suffix) (h' : AmountSplit s text' suffix') :
    text = text' ∧ suffix = suffix' := by
  have chars := h.chars.symm.trans h'.chars
  cases suffix with
  | none =>
    cases suffix' with
    | none => exact ⟨by simpa using chars, rfl⟩
    | some c =>
      have last : text = text' ++ [c] := by simpa using chars
      exact absurd (h'.suffix_mem c rfl) (h.unscaled rfl c (by simp [last]))
  | some c =>
    cases suffix' with
    | none =>
      have last : text' = text ++ [c] := by simpa using chars.symm
      exact absurd (h.suffix_mem c rfl) (h'.unscaled rfl c (by simp [last]))
    | some d =>
      obtain ⟨same, last⟩ := List.append_inj' chars rfl
      exact ⟨same, congrArg some (List.cons.inj last).1⟩

theorem Reading.Scale.isSome_ofChar?_iff (c : Char) :
    (Scale.ofChar? c).isSome = true ↔ c ∈ ['K', 'k', 'M', 'm', '%'] := by
  unfold Scale.ofChar?
  split <;> simp_all

theorem suffixFactor_eq {c : Char} {scale : Scale} (named : Scale.ofChar? c = some scale) :
    suffixFactor (some c) = scale.factor.value := by
  rw [Scale.value_factor]
  unfold Scale.ofChar? at named
  split at named <;> cases named <;> rfl

theorem Reading.Scale.exists_value_factor (scale : Scale) :
    ∃ e : Int, scale.factor.value = (10 : Rat) ^ e ∧ -2 ≤ e ∧ e ≤ 6 := by
  rw [Scale.value_factor]
  cases scale with
  | one => exact ⟨0, by norm_num⟩
  | million => exact ⟨6, by norm_num⟩
  | thousand => exact ⟨3, by norm_num⟩
  | percent => exact ⟨-2, by norm_num⟩

theorem exists_amountSplit (s : String) :
    ∃ suffix, AmountSplit s (amountParts s).1 suffix ∧
      suffixFactor suffix = (amountParts s).2.factor.value := by
  have one : suffixFactor none = Scale.one.factor.value := (Scale.value_factor .one).symm
  unfold amountParts splitScale
  cases last : (stripAmount s.toList).getLast? with
  | none => exact ⟨none, ⟨by simp [stripAmount], by simp, by simp [last]⟩, one⟩
  | some c =>
    have named_iff := Scale.isSome_ofChar?_iff c
    cases named : Scale.ofChar? c with
    | none =>
      rw [Option.bind_some, named]
      rw [named] at named_iff
      exact ⟨none, ⟨by simp [stripAmount], by simp, by simpa [last] using named_iff⟩, one⟩
    | some scale =>
      obtain ⟨front, text⟩ := List.getLast?_eq_some_iff.1 last
      have mem := named_iff.1 (by rw [named]; rfl)
      have chars : s.toList.filter (!isAmountFiller ·) = front ++ [c] := text
      rw [Option.bind_some, named, text]
      exact ⟨some c, ⟨by simpa using chars, by simpa using mem, nofun⟩, suffixFactor_eq named⟩

/-! ## Products -/

section Products

variable {s : String} {x : Numeral}

theorem readAmount_of_leadingNumeral? (found : leadingNumeral? (amountParts s).1 = some x) :
    readAmount (some s) =
      let amount := Binary64.ofNumeral (x.mul (amountParts s).2.factor)
      if amount.isFinite then amount else .zero false := by
  simp [readAmount, scaledNumeral?_amountParts, found]

theorem readAmount_of_none (unread : leadingNumeral? (amountParts s).1 = none) :
    readAmount (some s) = .zero false := by
  simp [readAmount, scaledNumeral?_amountParts, unread]

/-- The product of a numeral of few digits is rounded once. -/
theorem readAmount_nearest (found : leadingNumeral? (amountParts s).1 = some x)
    (digits : HasDigits 28 x.value) :
    let q := x.value * (amountParts s).2.factor.value
    (|q| < overflow → (readAmount (some s)).IsNearest q) ∧
        (overflow ≤ |q| → readAmount (some s) = .zero false) := by
  obtain ⟨e, power, -⟩ := (amountParts s).2.exists_value_factor
  have product := Numeral.value_mul_of_le (y := (amountParts s).2.factor)
    (power ▸ digits.mul_zpow e) (Nat.le_refl 28)
  intro q
  rw [readAmount_of_leadingNumeral? found]
  constructor
  · intro small
    have nearest := Binary64.isNearest_ofNumeral (lt_of_eq_of_lt (congrArg abs product) small)
    rw [product] at nearest
    simpa [nearest.isFinite] using nearest
  · intro large
    rw [Binary64.ofNumeral_eq_infinite (le_of_le_of_eq large (congrArg abs product).symm)]
    rfl

/-- Zero is the nearest number to the product of a numeral beyond the limits, unless the product is
too great. -/
theorem isNearest_zero_of_beyond (digits : digitCount x.coefficient ≤ 10 ^ 18)
    (beyond : x.withinLimits = false) (scale : Scale)
    (small : |x.value * scale.factor.value| < overflow) :
    (Binary64.zero false).IsNearest (x.value * scale.factor.value) := by
  obtain ⟨e, power, low, high⟩ := scale.exists_value_factor
  have product : |x.value * scale.factor.value| = |x.value| * (10 : Rat) ^ e := by
    rw [abs_mul, power, abs_of_pos (ten_zpow_pos e)]
  rcases Numeral.far_of_not_withinLimits digits beyond with tiny | huge
  · have least : |(x.mulExact scale.factor).value| ≤ (10 : Rat) ^ (-324 : Int) := by
      rw [Numeral.value_mulExact, product]
      calc |x.value| * (10 : Rat) ^ e ≤ (10 : Rat) ^ (-400 : Int) * (10 : Rat) ^ e :=
            mul_le_mul_of_nonneg_right tiny (ten_zpow_pos e).le
        _ = (10 : Rat) ^ (-400 + e) := (zpow_add₀ (by decide) _ _).symm
        _ ≤ (10 : Rat) ^ (-324 : Int) := zpow_le_zpow_right₀ (by decide) (by omega)
    rw [← Numeral.value_mulExact] at small ⊢
    have nearest := Binary64.isNearest_ofNumeral small
    rw [Binary64.ofNumeral_eq_zero least] at nearest
    exact nearest.zero false
  · have bound : overflow ≤ (10 : Rat) ^ (398 : Int) := by
      have power : (2 : Rat) ^ 1024 ≤ 10 ^ 398 := by
        exact_mod_cast two_pow_le_ten_pow 1024 398 (by decide)
      exact (sub_le_self _ (pow_nonneg (by decide) 970)).trans power
    have great : (10 : Rat) ^ (398 : Int) ≤ |x.value| * (10 : Rat) ^ e :=
      calc (10 : Rat) ^ (398 : Int) ≤ (10 : Rat) ^ (400 + e) :=
        zpow_le_zpow_right₀ (by decide) (by omega)
        _ = (10 : Rat) ^ (400 : Int) * (10 : Rat) ^ e := zpow_add₀ (by decide) _ _
        _ ≤ |x.value| * (10 : Rat) ^ e := mul_le_mul_of_nonneg_right huge (ten_zpow_pos e).le
    exact absurd (bound.trans great) (not_le.2 (product ▸ small))

end Products

/-! ## Texts -/

theorem readAmount_fillers (before filler after : String)
    (fillers : ∀ c ∈ filler.toList, isAmountFiller c = true) :
    readAmount (some (before ++ filler ++ after)) = readAmount (some (before ++ after)) := by
  have dropped : filler.toList.filter (!isAmountFiller ·) = [] := by simpa using fillers
  simp [readAmount, scaledNumeral?, stripAmount, dropped]

theorem digitCount_le_length {n : WrittenNumeral} {text : List Char} (begins : n.chars <+: text) :
    digitCount n.numeral.coefficient ≤ text.length := by
  have written := begins.length_le
  have some_digit : 0 < (n.whole ++ n.places).length := by
    have digit := n.some_digit
    simp only [WrittenNumeral.places, List.length_append, ← List.length_pos_iff] at *
    omega
  have count : digitCount n.numeral.coefficient ≤ (n.whole ++ n.places).length :=
    (digitCount_le_iff some_digit).2 (digitsValue_lt _)
  have pointed : n.places.length ≤ n.pointed.length := by
    unfold WrittenNumeral.places WrittenNumeral.pointed
    cases n.fraction <;> simp
  simp only [WrittenNumeral.chars, List.length_append] at written count
  omega

theorem length_amountParts_le (s : String) : (amountParts s).1.length ≤ s.length := by
  have kept : (stripAmount s.toList).length ≤ s.length := List.length_filter_le _ _
  unfold amountParts splitScale
  split
  · simp only [List.length_dropLast]
    omega
  · exact kept

/-- A plain text in which a finite number can be read is that number. -/
theorem readAmount_of_plain {s : String} {x : Numeral}
    (split : AmountSplit s (amountParts s).1 none)
    (factor : suffixFactor none = (amountParts s).2.factor.value)
    (plain : ∀ c ∈ s.toList, isAmountFiller c = false) (found : leadingNumeral? s.toList = some x)
    (digits : HasDigits 28 x.value) (finite : (Binary64.ofNumeral x).isFinite = true) :
    readAmount (some s) = .ofNumeral x := by
  have whole : (amountParts s).1 = s.toList := by
    have chars := split.chars
    rw [List.filter_eq_self.2 fun c mem => by simp [plain c mem]] at chars
    simpa using chars.symm
  have unscaled : (x.mul (amountParts s).2.factor).value = x.value := by
    have one : (amountParts s).2.factor.value = 1 := factor.symm
    rw [Numeral.value_mul_of_le (by rwa [one, mul_one]) (Nat.le_refl 28), one, mul_one]
  have sign : (x.mul (amountParts s).2.factor).negative = x.negative := by
    cases (amountParts s).2 <;> simp [Numeral.mul, Numeral.mulExact, Numeral.roundTo, Scale.factor]
  rw [readAmount_of_leadingNumeral? (whole ▸ found),
    Binary64.ofNumeral_congr sign (congrArg abs unscaled)]
  simp [finite]

/-! ## Rounding once -/

/-- The numeral at the start of an amount, times what the suffix stands for, is rounded once, to the
nearest number; a product that is too great, and a text without a numeral, read as zero. So an
amount without suffix and fillers is the number that a range is compared with. Fillers make no
difference anywhere. The bound on the length is for numerals beyond the limits: no text in memory is
as long. -/
theorem scaling_rounds_once (s : String) :
    ∃ text suffix, AmountSplit s text suffix ∧
      (∀ n : WrittenNumeral, n.IsLongestIn text → HasDigits 28 n.numeral.value →
        (n.numeral.withinLimits = true ∨ s.length ≤ 10 ^ 18) →
          let q := n.numeral.value * suffixFactor suffix
          (|q| < overflow → (readAmount (some s)).IsNearest q) ∧
            (overflow ≤ |q| → readAmount (some s) = .zero false)) ∧
      ((∀ n : WrittenNumeral, ¬n.chars <+: text) → readAmount (some s) = .zero false) ∧
      (suffix = none → (∀ c ∈ s.toList, isAmountFiller c = false) →
        ∀ x, leadingNumeral? s.toList = some x → HasDigits 28 x.value →
          (Binary64.ofNumeral x).isFinite = true → readAmount (some s) = .ofNumeral x ∧
            ∀ low high, (Predicate.inRange low high).ask s =
              .ok (low.le (readAmount (some s)) && (readAmount (some s)).le high)) ∧
      ∀ before filler after : String, s = before ++ after →
        (∀ c ∈ filler.toList, isAmountFiller c = true) →
        readAmount (some (before ++ filler ++ after)) = readAmount (some s) := by
  obtain ⟨suffix, split, factor⟩ := exists_amountSplit s
  have trimmed := trim_amountParts s
  refine ⟨(amountParts s).1, suffix, split, fun n isLongest digits limits => ?_,
    fun absent => ?_, ?_, ?_⟩
  · rw [factor]
    cases within : n.numeral.withinLimits with
    | true =>
      have found := leadingNumeral?_eq_some_iff.2 ⟨n, trimmed.symm ▸ isLongest, rfl, within⟩
      exact readAmount_nearest found digits
    | false =>
      have unread := leadingNumeral?_eq_none_iff.2 (.inr ⟨n, trimmed.symm ▸ isLongest, within⟩)
      have short := limits.resolve_left (by simp [within])
      have count := (digitCount_le_length isLongest.begins).trans
        ((length_amountParts_le s).trans short)
      rw [readAmount_of_none unread]
      exact ⟨isNearest_zero_of_beyond count within _, fun _ => rfl⟩
  · exact readAmount_of_none (leadingNumeral?_eq_none_iff.2 (.inl (trimmed.symm ▸ absent)))
  · rintro rfl plain x found digits finite
    have read := readAmount_of_plain split factor plain found digits finite
    exact ⟨read, fun low high => by rw [read, Predicate.ask, found]⟩
  · rintro before filler after rfl fillers
    exact readAmount_fillers before filler after fillers

/-- An amount of 28 digits is read as the nearest number, and one without suffix and fillers as the
number that it begins with. -/
theorem scaling_rounds_once_many_digits :
    (readAmount (some "$1,234567890123456789012345.678 k")).IsNearest 1234567890123456789012345678 ∧
      readAmount (some "45.5days") = .ofNumeral ⟨false, 455, -1⟩ := by
  constructor
  · obtain ⟨text, suffix, split, nearest, -⟩ :=
      scaling_rounds_once "$1,234567890123456789012345.678 k"
    have written : AmountSplit "$1,234567890123456789012345.678 k"
        "1234567890123456789012345.678".toList (some 'k') :=
      ⟨by decide +kernel, by simp, nofun⟩
    obtain ⟨rfl, rfl⟩ := split.unique written
    have found : leadingNumeral? "1234567890123456789012345.678".toList =
        some ⟨false, 1234567890123456789012345678, -3⟩ := by decide +kernel
    obtain ⟨n, isLongest, numeral, within⟩ := leadingNumeral?_eq_some_iff.1 found
    have none_blank : "1234567890123456789012345.678".toList.any isBlank = false := by
      decide +kernel
    rw [trim_eq_self fun c mem => Bool.eq_false_iff.2 (List.any_eq_false.1 none_blank c mem)]
      at isLongest
    have digits : HasDigits 28 n.numeral.value :=
      ⟨1234567890123456789012345678, -3, by decide, by rw [numeral]; decide +kernel⟩
    have product : n.numeral.value * suffixFactor (some 'k') = 1234567890123456789012345678 := by
      rw [numeral]
      decide +kernel
    have rounded := (nearest n isLongest digits (.inl (numeral ▸ within))).1
    rw [product] at rounded
    exact rounded (by decide +kernel)
  · obtain ⟨text, suffix, split, -, -, plain, -⟩ := scaling_rounds_once "45.5days"
    have last : "45.5days".toList.getLast? = some 's' := by decide +kernel
    have written : AmountSplit "45.5days" "45.5days".toList none := by
      refine ⟨by decide +kernel, by simp, fun _ c mem => ?_⟩
      obtain rfl : 's' = c := Option.some.inj (last.symm.trans mem)
      decide
    have no_filler : "45.5days".toList.any isAmountFiller = false := by decide +kernel
    obtain ⟨rfl, rfl⟩ := split.unique written
    have digits : HasDigits 28 (Numeral.value ⟨false, 455, -1⟩) :=
      ⟨455, -1, by decide, by decide +kernel⟩
    exact (plain rfl (fun c mem => Bool.eq_false_iff.2 (List.any_eq_false.1 no_filler c mem))
      ⟨false, 455, -1⟩ (by decide +kernel) digits (by decide +kernel)).1

end RecordAudit
