import Mathlib.Logic.Function.Iterate
import Mathlib.Tactic.IntervalCases
import RecordAudit.Calendar.Day

/-!
# Day numbers count days

Each date of the calendar has a next one, and the first date is reached from none. The place of a
date in the calendar is one more than the steps that lead to it from the first, so the day number of
a date counts the steps between it and 1970-01-01, with a sign.
-/

namespace RecordAudit.Calendar

/-! ## Months and years -/

theorem daysInMonth_le (year month : Nat) : daysInMonth year month ≤ 31 := by
  unfold daysInMonth
  split <;> (try split) <;> decide

theorem month_mem {year month : Nat} (h : 1 ≤ daysInMonth year month) : 1 ≤ month ∧ month ≤ 12 := by
  unfold daysInMonth at h
  split at h <;> omega

theorem le_daysInMonth {year month : Nat} (january : 1 ≤ month) (december : month ≤ 12) :
    28 ≤ daysInMonth year month := by
  interval_cases month <;> simp only [daysInMonth, Nat.reduceLeDiff]
  case «2» => split <;> decide

theorem daysBeforeMonth_succ (year : Nat) {month : Nat} (h : 1 ≤ month) :
    daysBeforeMonth year (month + 1) = daysBeforeMonth year month + daysInMonth year month := by
  obtain ⟨m, rfl⟩ := Nat.exists_eq_add_of_le' h
  simp [daysBeforeMonth, List.range_succ]

theorem daysBeforeMonth_le (year month : Nat) : daysBeforeMonth year month ≤ 31 * (month - 1) := by
  cases month with
  | zero => simp [daysBeforeMonth]
  | succ m =>
    induction m with
    | zero => simp [daysBeforeMonth]
    | succ m ih =>
      have last := daysInMonth_le year (m + 1)
      rw [daysBeforeMonth_succ year (Nat.le_add_left 1 m)]
      omega

/-- A year has 365 days, and one more when it is a leap year. -/
theorem daysBeforeMonth_december (year : Nat) :
    daysBeforeMonth year 12 + daysInMonth year 12 = if isLeapYear year then 366 else 365 := by
  have whole : daysBeforeMonth year 12 = 306 + daysInMonth year 2 := by
    simp [daysBeforeMonth, List.range_succ, daysInMonth]
    omega
  rw [whole]
  cases leap : isLeapYear year <;> simp [daysInMonth, leap]

theorem daysBeforeYear_succ {year : Nat} (h : 1 ≤ year) :
    daysBeforeYear (year + 1) = daysBeforeYear year + if isLeapYear year then 366 else 365 := by
  obtain ⟨y, rfl⟩ := Nat.exists_eq_add_of_le' h
  -- each quotient goes up by one where the year is a multiple of its divisor
  have counted : ∀ k, (y + 1) / k = y / k + if (y + 1) % k = 0 then 1 else 0 := fun k => by
    simp only [Nat.succ_div, Nat.dvd_iff_mod_eq_zero]
  have centuries_le : y / 100 ≤ y / 4 := Nat.div_le_div_left (by decide) (by decide)
  have century : (y + 1) % 100 = 0 → (y + 1) % 4 = 0 := by omega
  have cycle : (y + 1) % 400 = 0 → (y + 1) % 100 = 0 := by omega
  simp only [daysBeforeYear, isLeapYear, Nat.add_sub_cancel, counted, Bool.and_eq_true,
    Bool.or_eq_true, beq_iff_eq, bne_iff_ne]
  clear counted
  generalize (y + 1) % 4 = by4 at *
  generalize (y + 1) % 100 = by100 at *
  generalize (y + 1) % 400 = by400 at *
  generalize y / 4 = fours at *
  generalize y / 100 = centuries at *
  grind

/-! ## One day after another -/

namespace Date

def first : Date := ⟨1, 1, 1⟩

def last : Date := ⟨9999, 12, 31⟩

def epoch : Date := ⟨1970, 1, 1⟩

def next (d : Date) : Date :=
  if d.day < daysInMonth d.year d.month then { d with day := d.day + 1 }
  else if d.month < 12 then ⟨d.year, d.month + 1, 1⟩
  else ⟨d.year + 1, 1, 1⟩

theorem isValid_iff {d : Date} :
    d.isValid = true ↔ 1 ≤ d.year ∧ d.year ≤ 9999 ∧ 1 ≤ d.day ∧
      d.day ≤ daysInMonth d.year d.month := by
  simp [isValid, and_assoc]

theorem one_le_ordinal {d : Date} (valid : d.isValid = true) : 1 ≤ d.ordinal := by
  have := isValid_iff.1 valid
  unfold ordinal
  omega

theorem ordinal_next {d : Date} (valid : d.isValid = true) : d.next.ordinal = d.ordinal + 1 := by
  obtain ⟨year, -, day, last⟩ := isValid_iff.1 valid
  obtain ⟨january, december⟩ := month_mem (Nat.le_trans day last)
  unfold next
  split
  · simp only [ordinal]
    omega
  · have month_over : d.day = daysInMonth d.year d.month := by omega
    split
    · simp only [ordinal, daysBeforeMonth_succ d.year january]
      omega
    · have year_over : d.month = 12 := by omega
      have none_before : daysBeforeMonth (d.year + 1) 1 = 0 := rfl
      have whole := daysBeforeMonth_december d.year
      simp only [ordinal, daysBeforeYear_succ year, none_before, month_over, year_over]
      omega

theorem exists_next_eq {d : Date} (valid : d.isValid = true) (later : d ≠ first) :
    ∃ e : Date, e.isValid = true ∧ e.next = d := by
  obtain ⟨y, m, n⟩ := d
  obtain ⟨year, no_later, day, last⟩ := isValid_iff.1 valid
  dsimp only at year no_later day last
  obtain ⟨january, december⟩ := month_mem (Nat.le_trans day last)
  by_cases within : 2 ≤ n
  · refine ⟨⟨y, m, n - 1⟩, isValid_iff.2
      ⟨year, no_later, by dsimp only; omega, by dsimp only; omega⟩, ?_⟩
    have more : n - 1 < daysInMonth y m := by omega
    simp only [next, if_pos more]
    congr
    omega
  obtain rfl : n = 1 := by omega
  by_cases after_january : 2 ≤ m
  · have days : 28 ≤ daysInMonth y (m - 1) := le_daysInMonth (by omega) (by omega)
    refine ⟨⟨y, m - 1, daysInMonth y (m - 1)⟩,
      isValid_iff.2 ⟨year, no_later, by dsimp only; omega, Nat.le_refl _⟩, ?_⟩
    have month_left : m - 1 < 12 := by omega
    simp only [next, Nat.lt_irrefl, if_false, if_pos month_left]
    congr
    omega
  obtain rfl : m = 1 := by omega
  have after_first : y ≠ 1 := by
    rintro rfl
    exact later rfl
  refine ⟨⟨y - 1, 12, 31⟩, isValid_iff.2 ⟨?_, ?_, Nat.succ_pos 30, Nat.le_refl _⟩, ?_⟩
  · dsimp only
    omega
  · dsimp only
    omega
  have no_day_left : ¬31 < daysInMonth (y - 1) 12 := Nat.lt_irrefl 31
  simp only [next, if_neg no_day_left, Nat.lt_irrefl, if_false]
  congr
  omega

/-- A date is reached from the first in as many days as are before it. -/
theorem iterate_next_first {d : Date} (valid : d.isValid = true) :
    next^[d.ordinal - 1] first = d := by
  induction place : d.ordinal using Nat.strongRecOn generalizing d with
  | _ n ih =>
    by_cases same : d = first
    · subst same
      have one : first.ordinal = 1 := by decide
      rw [← place, one]
      rfl
    · obtain ⟨e, before, rfl⟩ := exists_next_eq valid same
      have step := ordinal_next before
      have positive := one_le_ordinal before
      obtain ⟨k, reached⟩ : ∃ k, n - 1 = k + 1 ∧ k = e.ordinal - 1 := ⟨e.ordinal - 1, by omega, rfl⟩
      rw [reached.1, Function.iterate_succ_apply', reached.2, ih e.ordinal (by omega) before rfl]

/-- One date is reached from another in as many days as lie between them. -/
theorem iterate_next {d e : Date} (valid : d.isValid = true) (valid' : e.isValid = true)
    (le : d.ordinal ≤ e.ordinal) : next^[e.ordinal - d.ordinal] d = e := by
  have positive := one_le_ordinal valid
  have days : e.ordinal - 1 = e.ordinal - d.ordinal + (d.ordinal - 1) := by omega
  have reached := iterate_next_first valid'
  rwa [days, Function.iterate_add_apply, iterate_next_first valid] at reached

theorem isValid_next {d : Date} (valid : d.isValid = true) (earlier : d ≠ last) :
    d.next.isValid = true := by
  obtain ⟨y, m, n⟩ := d
  obtain ⟨year, no_later, day, in_month⟩ := isValid_iff.1 valid
  dsimp only at year no_later day in_month
  obtain ⟨january, december⟩ := month_mem (Nat.le_trans day in_month)
  unfold next
  dsimp only
  split
  · next more => exact isValid_iff.2 ⟨year, no_later, by dsimp only; omega, more⟩
  split
  · next more =>
    have days : 28 ≤ daysInMonth y (m + 1) := le_daysInMonth (by omega) more
    exact isValid_iff.2 ⟨year, no_later, Nat.le_refl _, by dsimp only; omega⟩
  · next month_over year_over =>
    obtain rfl : m = 12 := by omega
    have days : daysInMonth y 12 = 31 := rfl
    have not_last : y ≠ 9999 := by
      rintro rfl
      obtain rfl : n = 31 := by omega
      exact earlier rfl
    have january : daysInMonth (y + 1) 1 = 31 := rfl
    exact isValid_iff.2 ⟨by dsimp only; omega, by dsimp only; omega,
      Nat.le_refl _, by dsimp only; omega⟩

theorem ordinal_last : last.ordinal = 3652059 := by decide

theorem ordinal_le {d : Date} (valid : d.isValid = true) : d.ordinal ≤ last.ordinal := by
  obtain ⟨y, m, n⟩ := d
  obtain ⟨year, no_later, day, in_month⟩ := isValid_iff.1 valid
  dsimp only at year no_later day in_month
  obtain ⟨january, december⟩ := month_mem (Nat.le_trans day in_month)
  rw [ordinal_last]
  unfold ordinal
  dsimp only
  by_cases earlier : y < 9999
  · have before := daysBeforeMonth_le y m
    have days := Nat.le_trans in_month (daysInMonth_le y m)
    simp only [daysBeforeYear]
    omega
  · obtain rfl : y = 9999 := by omega
    have years : daysBeforeYear 9999 = 3651694 := by decide
    have months : ∀ m ≤ 12, 1 ≤ m → daysBeforeMonth 9999 m + daysInMonth 9999 m ≤ 365 := by decide
    have := months m december january
    omega

/-- The calendar has the dates that are reached from the first in fewer steps than it has days. -/
theorem isValid_iff_iterate {d : Date} : d.isValid = true ↔ ∃ n < 3652059, next^[n] first = d := by
  constructor
  · intro valid
    have positive := one_le_ordinal valid
    have upper := ordinal_le valid
    rw [ordinal_last] at upper
    exact ⟨d.ordinal - 1, by omega, iterate_next_first valid⟩
  · rintro ⟨n, within, rfl⟩
    have reached : ∀ n < 3652059, (next^[n] first).isValid = true ∧
        (next^[n] first).ordinal = n + 1 := by
      intro n
      induction n with
      | zero => exact fun _ => ⟨by decide, by decide⟩
      | succ n ih =>
        intro within
        obtain ⟨valid, place⟩ := ih (by omega)
        have earlier : next^[n] first ≠ last := by
          intro same
          rw [same, ordinal_last] at place
          omega
        rw [Function.iterate_succ_apply']
        exact ⟨isValid_next valid earlier, by rw [ordinal_next valid, place]⟩
    exact (reached n within).1

/-! ## Day numbers -/

/-- The number of a date counts days from 1970-01-01 on, or days back. -/
theorem dayNumber_counts {d : Date} (valid : d.isValid = true) :
    ∃ days : Nat, d.dayNumber = days ∧ next^[days] epoch = d ∨ d.dayNumber = -days ∧
      next^[days] d = epoch := by
  have start : epoch.isValid = true := by decide
  have place : epochOrdinal = epoch.ordinal := rfl
  rcases Nat.le_total epoch.ordinal d.ordinal with later | earlier
  · refine ⟨d.ordinal - epoch.ordinal, .inl ⟨?_, iterate_next start valid later⟩⟩
    rw [dayNumber, place]
    omega
  · refine ⟨epoch.ordinal - d.ordinal, .inr ⟨?_, iterate_next valid start earlier⟩⟩
    rw [dayNumber, place]
    omega

theorem dayNumber_next {d : Date} (valid : d.isValid = true) :
    d.next.dayNumber = d.dayNumber + 1 := by
  rw [dayNumber, dayNumber, ordinal_next valid]
  omega

theorem natAbs_dayNumber_lt {d : Date} (h : d.isValid = true) : d.dayNumber.natAbs < 10 ^ 7 := by
  obtain ⟨-, year, day, last⟩ := isValid_iff.1 h
  have month := (month_mem (Nat.le_trans day last)).2
  have days := Nat.le_trans last (daysInMonth_le d.year d.month)
  have before := daysBeforeMonth_le d.year d.month
  have epoch : epochOrdinal = 719163 := by decide
  unfold dayNumber
  rw [epoch, ordinal, daysBeforeYear]
  omega

end Date

end RecordAudit.Calendar
