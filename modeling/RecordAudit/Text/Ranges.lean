/-!
# Sets of characters given by code point ranges

Classes of characters that a standard fixes are tables of inclusive ranges of code points.
-/

namespace RecordAudit.Text

/-- Whether the code point `n` lies in one of the inclusive ranges. -/
def inRanges (ranges : List (Nat × Nat)) (n : Nat) : Bool :=
  ranges.any fun r => r.1 ≤ n && n ≤ r.2

@[simp] theorem inRanges_nil (n : Nat) : inRanges [] n = false := rfl

theorem inRanges_iff {ranges : List (Nat × Nat)} {n : Nat} :
    inRanges ranges n = true ↔ ∃ r ∈ ranges, r.1 ≤ n ∧ n ≤ r.2 := by
  simp [inRanges, List.any_eq_true]

end RecordAudit.Text
