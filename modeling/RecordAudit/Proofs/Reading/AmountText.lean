import Mathlib.Tactic.NormNum
import RecordAudit.Constraint.FieldRule
import RecordAudit.Proofs.Number.Significant

/-!
# Texts of amounts

Blanks around an amount do not matter, and no digit is a blank. Before the suffix of an amount there
are no blanks.
-/

namespace RecordAudit

open Number Text Reading

/-! ## Blanks -/

namespace Text

theorem filter_dropWhile_isBlank {keep : Char → Bool} (h : ∀ c, isBlank c = true → keep c = false)
    (cs : List Char) :
    (cs.dropWhile isBlank).filter keep = cs.filter keep := by
  induction cs with
  | nil => rfl
  | cons c rest ih =>
    by_cases blank : isBlank c = true
    · simp [blank, h c blank, ih]
    · simp [blank]

theorem filter_trim {keep : Char → Bool} (h : ∀ c, isBlank c = true → keep c = false)
    (cs : List Char) :
    (trim cs).filter keep = cs.filter keep := by
  simp [trim, trimEnd, trimStart, List.filter_reverse, filter_dropWhile_isBlank h]

theorem dropWhile_isBlank_eq_self {cs : List Char} (h : ∀ c ∈ cs.head?, isBlank c = false) :
    cs.dropWhile isBlank = cs := by
  cases cs with
  | nil => rfl
  | cons c rest => simp [h c rfl]

theorem trim_eq_self {cs : List Char} (h : ∀ c ∈ cs, isBlank c = false) : trim cs = cs := by
  have first : cs.dropWhile isBlank = cs :=
    dropWhile_isBlank_eq_self fun c mem => h c (List.mem_of_head? mem)
  have last : cs.reverse.dropWhile isBlank = cs.reverse :=
    dropWhile_isBlank_eq_self fun c mem => h c (List.mem_reverse.1 (List.mem_of_head? mem))
  simp [trim, trimStart, trimEnd, first, last]

theorem trimEnd_prefix (cs : List Char) : trimEnd cs <+: cs := by
  have suffix : cs.reverse.dropWhile isBlank <:+ cs.reverse := List.dropWhile_suffix _
  simpa [trimEnd] using List.reverse_prefix.2 suffix

/-- Trimming keeps a part without blanks, and what follows it up to the blanks at the end. -/
theorem trim_append {blanks kept rest : List Char} (blank : ∀ c ∈ blanks, isBlank c = true)
    (none_blank : ∀ c ∈ kept, isBlank c = false) (nonempty : kept ≠ []) :
    trim (blanks ++ (kept ++ rest)) = kept ++ trimEnd rest := by
  obtain ⟨c, cs, rfl⟩ := List.exists_cons_of_ne_nil nonempty
  have first : (c :: cs ++ rest).dropWhile isBlank = c :: cs ++ rest :=
    dropWhile_isBlank_eq_self fun d mem => none_blank d (by simp_all)
  have last : (c :: cs).reverse.dropWhile isBlank = (c :: cs).reverse :=
    dropWhile_isBlank_eq_self fun d mem => none_blank d (List.mem_reverse.1 (List.mem_of_head? mem))
  rw [trim, trimStart, List.dropWhile_append_of_pos blank, first, trimEnd, List.reverse_append,
    List.dropWhile_append, trimEnd]
  split
  · next empty => rw [List.isEmpty_iff.1 empty, last, List.reverse_reverse, List.reverse_nil,
      List.append_nil]
  · rw [List.reverse_append, List.reverse_reverse]

/-- The figures of every script stand apart from the blanks. -/
theorem isFigure_of_isBlank {c : Char} (h : isBlank c = true) : isFigure c = false := by
  have apart : ∀ r ∈ blankRanges, ∀ k < r.2 - r.1 + 1,
      (zeroDigits.find? fun z => z ≤ r.1 + k && r.1 + k < z + 10) = none ∧
        inRanges otherFigureRanges (r.1 + k) = false := by decide +kernel
  obtain ⟨r, mem, low, high⟩ := inRanges_iff.1 h
  obtain ⟨decimal, other⟩ := apart r mem (c.toNat - r.1) (by omega)
  rw [Nat.add_sub_cancel' low] at decimal other
  simp [isFigure, isDecimal, digitValue?, decimal, other]

theorem isBlank_of_isDecimal {c : Char} (h : isDecimal c = true) : isBlank c = false := by
  rw [Bool.eq_false_iff]
  intro blank
  have no_figure := isFigure_of_isBlank blank
  simp [isFigure, h] at no_figure

theorem any_isFigure_trim (cs : List Char) : (trim cs).any isFigure = cs.any isFigure := by
  have same : ∀ c, c ∈ trim cs ∧ isFigure c = true ↔ c ∈ cs ∧ isFigure c = true := fun c => by
    rw [← List.mem_filter, filter_trim (fun c => isFigure_of_isBlank), List.mem_filter]
  rw [Bool.eq_iff_iff, List.any_eq_true, List.any_eq_true]
  exact exists_congr same

end Text

/-! ## Suffixes -/

namespace Reading

variable {s : String}

/-- The digits and the scale of an amount, its fillers dropped. -/
def amountParts (s : String) : List Char × Scale := splitScale (stripAmount s.toList)

theorem mem_amountParts {c : Char} (h : c ∈ (amountParts s).1) :
    c ∈ s.toList ∧ isBlank c = false := by
  have kept : c ∈ stripAmount s.toList := by
    unfold amountParts splitScale at h
    split at h
    · exact (List.dropLast_sublist _).subset h
    · exact h
  obtain ⟨mem, filler⟩ := List.mem_filter.1 kept
  simp only [isAmountFiller, Bool.not_or, Bool.and_eq_true, Bool.not_eq_true'] at filler
  exact ⟨mem, filler.1⟩

theorem scaledNumeral?_amountParts (s : String) :
    scaledNumeral? s.toList = (leadingNumeral? (amountParts s).1).map
      (·.mul (amountParts s).2.factor) := rfl

theorem trim_amountParts (s : String) : trim (amountParts s).1 = (amountParts s).1 :=
  trim_eq_self fun _ mem => (mem_amountParts mem).2

theorem Scale.value_factor (scale : Scale) :
    scale.factor.value = match scale with
      | .one => 1
      | .million => 1000000
      | .thousand => 1000
      | .percent => 1 / 100 := by
  cases scale <;> norm_num [factor, Numeral.value, tenPow_eq]

end Reading

theorem readAmount_trim (s : String) :
    readAmount (some (String.ofList (trim s.toList))) = readAmount (some s) := by
  have stripped : stripAmount (trim s.toList) = stripAmount s.toList :=
    filter_trim (fun c blank => by simp [isAmountFiller, blank]) _
  simp [readAmount, scaledNumeral?, stripped]

end RecordAudit
