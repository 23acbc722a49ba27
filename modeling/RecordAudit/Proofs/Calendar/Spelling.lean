import RecordAudit.Proofs.Calendar.Day
import RecordAudit.Proofs.Calendar.Matching
import RecordAudit.Proofs.Reading.Words

/-!
# Dates are read as they are written

Each of the accepted spellings of a date is read as this date and no other, whichever spelling it is
tried with. Blanks make no difference, nor does a time of day after the first spelling. A date that
is none of the calendar is read as no date.
-/

namespace RecordAudit.Calendar

open Text

/-! ## One spelling at a time -/

def Date.inCalendar? (date : Date) : Option Date := if date.isValid then some date else none

/-- The date of the preferred way, if this uses up the text and the date is one of the calendar. -/
def preferred : List (Date × List Char) → Option Date
  | (date, []) :: _ => date.inCalendar?
  | _ => none

theorem Spelling.read?_eq (s : Spelling) (cs : List Char) :
    s.read? cs = preferred (matchSpelling s ⟨1900, 1, 1⟩ cs) := by
  rw [Spelling.read?, preferred.eq_def]
  rfl

theorem preferred_ite {p : Prop} [Decidable p] (found : List (Date × List Char)) :
    preferred (if p then found else []) = if p then preferred found else none := by
  split <;> rfl

theorem preferred_singleton (date : Date) : preferred [(date, [])] = date.inCalendar? := rfl

theorem preferred_nil : preferred [] = none := rfl

theorem Date.ranges {d : Date} (valid : d.isValid = true) :
    (1 ≤ d.month ∧ d.month ≤ 12) ∧ 1 ≤ d.day ∧ d.day ≤ 31 := by
  obtain ⟨-, -, day, last⟩ := Date.isValid_iff.1 valid
  exact ⟨month_mem (Nat.le_trans day last), day, Nat.le_trans last (daysInMonth_le _ _)⟩

theorem Date.ite_month (date : Date) :
    (if 1 ≤ date.month ∧ date.month ≤ 12 then date.inCalendar? else none) = date.inCalendar? := by
  unfold inCalendar?
  have := date.ranges
  grind

theorem Date.ite_day (date : Date) :
    (if 1 ≤ date.day ∧ date.day ≤ 31 then date.inCalendar? else none) = date.inCalendar? := by
  unfold inCalendar?
  have := date.ranges
  grind

theorem findSome?_cons_or {α β : Type} (f : α → Option β) (a : α) (l : List α) :
    (a :: l).findSome? f = (f a).or (l.findSome? f) := by
  rw [List.findSome?_cons]
  cases f a <;> rfl

theorem Date.ite_day_ite (date : Date) (p : Prop) [Decidable p] :
    (if 1 ≤ date.day ∧ date.day ≤ 31 then if p then date.inCalendar? else none else none) =
      if p then date.inCalendar? else none := by
  by_cases h : p <;> simp [h, date.ite_day]

theorem preferred_day_last {v : Nat} {w : List Char} (written : WritesNumber v w) (date : Date) :
    preferred (matchSpelling [.day] date w) = Date.inCalendar? { date with day := v } := by
  have out : ¬(1 ≤ v ∧ v ≤ 31) → Date.inCalendar? { date with day := v } = none := by
    intro no_day
    have := Date.ite_day { date with day := v }
    simpa [no_day, eq_comm] using this
  have last : preferred (matchSpelling [.day] date w) =
      preferred ((matchDay w).map fun x => ({ date with day := x.1 }, x.2)) := by
    simp [matchSpelling, Piece.matches]
  rw [last]
  cases written with
  | padded h =>
    by_cases inRange : 1 ≤ v ∧ v ≤ 31
    · simp [matchDay_padded h, inRange, preferred]
    · rw [out inRange]
      by_cases first : 1 ≤ v / 10 <;> simp [matchDay_padded h, inRange, first, preferred]
  | short h =>
    have one : matchDay [v.digitChar] = if 1 ≤ v then [(v, [])] else [] :=
      matchDay_short h (by simp)
    by_cases positive : 1 ≤ v
    · simp [one, positive, preferred]
    · rw [out (by omega)]
      simp [one, positive, preferred]

section Shapes

variable {date : Date} {y m d : List Char} (year : WritesYear date.year y)
  (month : WritesNumber date.month m) (day : WritesNumber date.day d)

include year month day

theorem findSome?_dashed :
    spellings.findSome? (Spelling.read? · (y ++ '-' :: (m ++ '-' :: d))) = date.inCalendar? := by
  simp +decide only [spellings, findSome?_cons_or, List.findSome?_nil, Spelling.read?_eq,
    matchSpelling_year _ year, matchSpelling_month _ month, matchSpelling_month_year _ year,
    matchSpelling_day_year _ year, matchSpelling_digits year.ne_nil year.decimal, preferred_ite,
    preferred_day_last day, preferred_nil, if_true, if_false, and_true, and_false,
    Date.ite_month date, Option.or_none]

theorem findSome?_slashed :
    spellings.findSome? (Spelling.read? · (y ++ '/' :: (m ++ '/' :: d))) = date.inCalendar? := by
  simp +decide only [spellings, findSome?_cons_or, List.findSome?_nil, Spelling.read?_eq,
    matchSpelling_year _ year, matchSpelling_month _ month, matchSpelling_month_year _ year,
    matchSpelling_day_year _ year, matchSpelling_digits year.ne_nil year.decimal, preferred_ite,
    preferred_day_last day, preferred_nil, if_true, if_false, and_true, and_false,
    Date.ite_month date, Option.none_or, Option.or_none]

theorem findSome?_monthFirst :
    spellings.findSome? (Spelling.read? · (m ++ '/' :: (d ++ '/' :: y))) = date.inCalendar? := by
  simp +decide only [spellings, findSome?_cons_or, List.findSome?_nil, Spelling.read?_eq,
    matchSpelling_year_number month, matchSpelling_month _ month, matchSpelling_day _ month,
    matchSpelling_day _ day, matchSpelling_year_last year,
    matchSpelling_digits month.ne_nil month.decimal, preferred_ite, preferred_singleton,
    preferred_nil, if_false, and_true, and_false, Date.ite_month date, Date.ite_day date,
    Option.none_or, Option.or_none]

theorem findSome?_dotted :
    spellings.findSome? (Spelling.read? · (d ++ '.' :: (m ++ '.' :: y))) = date.inCalendar? := by
  simp +decide only [spellings, findSome?_cons_or, List.findSome?_nil, Spelling.read?_eq,
    matchSpelling_year_number day, matchSpelling_month _ day, matchSpelling_day _ day,
    matchSpelling_month _ month, matchSpelling_year_last year,
    matchSpelling_digits day.ne_nil day.decimal, preferred_ite, preferred_singleton, preferred_nil,
    if_false, and_true, and_false, Date.ite_month date, Date.ite_day date, Option.none_or,
    Option.or_none]

end Shapes

section NamedShapes

variable {date : Date} {w y d : List Char} {name : String} {letters : Nat}
  (isMonth : (name, date.month) ∈ monthNames.zipIdx 1) (cut : letters ∈ [9, 3])
  (lower : w.map Char.toLower = name.toList.take letters) (year : WritesYear date.year y)
  (day : WritesNumber date.day d)

/-- A name that is written in full or in part is found as one or the other. -/
theorem either_name {α : Type} (name : String) {letters : Nat} (cut : letters ∈ [9, 3])
    (o : Option α) :
    (if name.toList.take letters = name.toList.take 9 then o else none).or
      (if name.toList.take letters = name.toList.take 3 then o else none) = o := by
  simp only [List.mem_cons, List.not_mem_nil, or_false] at cut
  rcases cut with rfl | rfl
  · rw [if_pos rfl]
    split <;> simp
  · rw [if_pos rfl]
    split <;> simp

include isMonth cut lower year day

theorem findSome?_nameFirst_comma :
    spellings.findSome? (Spelling.read? · (w ++ ' ' :: (d ++ ',' :: ' ' :: y))) =
      date.inCalendar? := by
  have written : WritesMonth date.month w := ⟨name, isMonth, letters, cut, lower⟩
  simp +decide only [spellings, findSome?_cons_or, List.findSome?_nil, Spelling.read?_eq,
    matchSpelling_letters written, matchSpelling_monthName isMonth cut lower,
    matchSpelling_monthShort isMonth cut lower, matchSpelling_day _ day, matchSpelling_separator,
    matchSpelling_year_last year, preferred_ite, preferred_singleton, preferred_nil, if_true,
    if_false, ite_self, and_true, and_false, Date.ite_day date, either_name name cut,
    Option.none_or, Option.or_none]

theorem findSome?_nameFirst :
    spellings.findSome? (Spelling.read? · (w ++ ' ' :: (d ++ ' ' :: y))) = date.inCalendar? := by
  have written : WritesMonth date.month w := ⟨name, isMonth, letters, cut, lower⟩
  simp +decide only [spellings, findSome?_cons_or, List.findSome?_nil, Spelling.read?_eq,
    matchSpelling_letters written, matchSpelling_monthName isMonth cut lower,
    matchSpelling_monthShort isMonth cut lower, matchSpelling_day _ day,
    matchSpelling_year_last year, preferred_ite, preferred_singleton, preferred_nil, if_false,
    ite_self, and_true, and_false, Date.ite_day date, either_name name cut, Option.none_or,
    Option.or_none]

theorem findSome?_dayFirst :
    spellings.findSome? (Spelling.read? · (d ++ ' ' :: (w ++ ' ' :: y))) = date.inCalendar? := by
  simp +decide only [spellings, findSome?_cons_or, List.findSome?_nil, Spelling.read?_eq,
    matchSpelling_year_number day, matchSpelling_month _ day, matchSpelling_day _ day,
    matchSpelling_digits day.ne_nil day.decimal, matchSpelling_monthName isMonth cut lower,
    matchSpelling_monthShort isMonth cut lower, matchSpelling_year_last year, preferred_ite,
    preferred_singleton, preferred_nil, if_false, and_true, and_false, Date.ite_day_ite date,
    either_name name cut, Option.none_or, Option.or_none]

end NamedShapes

/-! ## Texts -/

/-- The words that spell a date. -/
inductive SpelledAs (date : Date) : List (List Char) → Prop
  | dashed {y m d : List Char} (year : WritesYear date.year y) (month : WritesNumber date.month m)
      (day : WritesNumber date.day d) : SpelledAs date [y ++ '-' :: (m ++ '-' :: d)]
  | slashed {y m d : List Char} (year : WritesYear date.year y) (month : WritesNumber date.month m)
      (day : WritesNumber date.day d) : SpelledAs date [y ++ '/' :: (m ++ '/' :: d)]
  | monthFirst {y m d : List Char} (year : WritesYear date.year y)
      (month : WritesNumber date.month m) (day : WritesNumber date.day d) :
      SpelledAs date [m ++ '/' :: (d ++ '/' :: y)]
  | dotted {y m d : List Char} (year : WritesYear date.year y) (month : WritesNumber date.month m)
      (day : WritesNumber date.day d) : SpelledAs date [d ++ '.' :: (m ++ '.' :: y)]
  | nameFirst {y w d : List Char} (year : WritesYear date.year y) (month : WritesMonth date.month w)
      (day : WritesNumber date.day d) : SpelledAs date [w, d, y]
  | nameFirstComma {y w d : List Char} (year : WritesYear date.year y)
      (month : WritesMonth date.month w) (day : WritesNumber date.day d) :
      SpelledAs date [w, d ++ [','], y]
  | dayFirst {y w d : List Char} (year : WritesYear date.year y) (month : WritesMonth date.month w)
      (day : WritesNumber date.day d) : SpelledAs date [d, w, y]

/-- The texts that spell a date: its words with any blanks, or its year, month and day with dashes
in ten characters and any text after a blank or the letter `T`. -/
inductive Spells (date : Date) : List Char → Prop
  | words {ws : List (List Char)} {cs : List Char} (spaced : Spaced ws cs)
      (spelled : SpelledAs date ws) :
      Spells date cs
  | timed {before y m d rest : List Char} {c : Char} (blank : ∀ b ∈ before, isBlank b = true)
      (year : WritesYear date.year y) (month : WritesNumber date.month m)
      (day : WritesNumber date.day d) (padded : m.length = 2 ∧ d.length = 2)
      (follows : c = 'T' ∨ isBlank c = true) :
      Spells date (before ++ (y ++ '-' :: (m ++ '-' :: d) ++ c :: rest))

/-- Nothing is dropped from a text without dashes. -/
theorem dropTime_eq_self {cs : List Char} (h : '-' ∉ cs ∨ cs.length ≤ 10) : dropTime cs = cs := by
  unfold dropTime
  split
  · next time =>
    simp only [Bool.and_eq_true, decide_eq_true_eq, beq_iff_eq] at time
    rcases h with no_dash | short
    · exact absurd (List.mem_of_getElem? time.1.2) no_dash
    · omega
  · rfl

theorem dropTime_append {w tail : List Char} (ten : w.length = 10) (dash : w[4]? = some '-')
    (next : ∀ c ∈ tail.head?, c = 'T' ∨ c = ' ') : dropTime (w ++ tail) = w := by
  cases tail with
  | nil => rw [List.append_nil, dropTime_eq_self (.inr ten.le)]
  | cons c rest =>
    have fifth : (w ++ c :: rest)[4]? = some '-' := by
      rw [List.getElem?_append_left (by omega), dash]
    have eleventh : (w ++ c :: rest)[10]? = some c := by
      rw [List.getElem?_append_right (by omega), ten]; rfl
    have time : ((w ++ c :: rest)[10]? == some 'T' || (w ++ c :: rest)[10]? == some ' ') =
        true := by
      rw [eleventh]
      rcases next c rfl with rfl | rfl <;> decide
    have long : 10 < (w ++ c :: rest).length := by simp [ten]
    rw [dropTime, if_pos (by simp only [long, fifth, time]; decide),
      List.take_append_of_le_length ten.ge, List.take_of_length_le ten.le]

theorem dash_not_mem_of_decimal {w : List Char} (h : ∀ c ∈ w, isDecimal c = true) :
    '-' ∉ w := fun mem =>
  absurd (h '-' mem) (by decide)

theorem WritesMonth.dash_not_mem {month : Nat} {w : List Char} (written : WritesMonth month w) :
    '-' ∉ w := fun mem =>
  absurd (written.toNat_mem mem) (by decide)

namespace SpelledAs

variable {date : Date} {ws : List (List Char)}

/-- No spelling is taken for one with a time of day. -/
theorem dropTime_eq_self (spelled : SpelledAs date ws) :
    dropTime (List.intercalate [' '] ws) = List.intercalate [' '] ws := by
  apply Calendar.dropTime_eq_self
  cases spelled with
  | dashed year month day =>
    right
    have := year.length
    have := month.length_le
    have := day.length_le
    simp only [List.intercalate_singleton, List.length_append, List.length_cons]
    omega
  | slashed year month day | monthFirst year month day | dotted year month day =>
    left
    simp [dash_not_mem_of_decimal year.decimal, dash_not_mem_of_decimal month.decimal,
      dash_not_mem_of_decimal day.decimal]
  | nameFirst year month day | nameFirstComma year month day | dayFirst year month day =>
    left
    simp [List.intercalate_cons_cons, dash_not_mem_of_decimal year.decimal, month.dash_not_mem,
      dash_not_mem_of_decimal day.decimal]

/-- The accepted spellings make of the words the date and no other. -/
theorem findSome?_eq (spelled : SpelledAs date ws) :
    spellings.findSome? (Spelling.read? · (List.intercalate [' '] ws)) = date.inCalendar? := by
  cases spelled with
  | dashed year month day =>
    rw [List.intercalate_singleton]
    exact findSome?_dashed year month day
  | slashed year month day =>
    rw [List.intercalate_singleton]
    exact findSome?_slashed year month day
  | monthFirst year month day =>
    rw [List.intercalate_singleton]
    exact findSome?_monthFirst year month day
  | dotted year month day =>
    rw [List.intercalate_singleton]
    exact findSome?_dotted year month day
  | nameFirst year month day =>
    obtain ⟨name, isMonth, letters, cut, lower⟩ := month
    simpa [List.intercalate_cons_cons] using findSome?_nameFirst isMonth cut lower year day
  | nameFirstComma year month day =>
    obtain ⟨name, isMonth, letters, cut, lower⟩ := month
    simpa [List.intercalate_cons_cons] using findSome?_nameFirst_comma isMonth cut lower year day
  | dayFirst year month day =>
    obtain ⟨name, isMonth, letters, cut, lower⟩ := month
    simpa [List.intercalate_cons_cons] using findSome?_dayFirst isMonth cut lower year day

end SpelledAs

/-- A text that spells a date is read as the date if it is one of the calendar, and as no date
otherwise. -/
theorem readDate?_of_spells {date : Date} {cs : List Char} (h : Spells date cs) :
    readDate? cs = date.inCalendar? := by
  cases h with
  | words spaced spelled =>
    rw [readDate?, collapseBlanks, words_of_spaced spaced, spelled.dropTime_eq_self]
    exact spelled.findSome?_eq
  | @timed before y m d rest c blank year month day padded follows =>
    have nonempty : y ++ '-' :: (m ++ '-' :: d) ≠ [] := by simp
    have clear : ∀ c ∈ y ++ '-' :: (m ++ '-' :: d), isBlank c = false := by
      intro c mem
      simp only [List.mem_append, List.mem_cons] at mem
      rcases mem with inYear | rfl | inMonth | rfl | inDay
      · exact isBlank_of_isDecimal (year.decimal c inYear)
      · decide
      · exact isBlank_of_isDecimal (month.decimal c inMonth)
      · decide
      · exact isBlank_of_isDecimal (day.decimal c inDay)
    have ten : (y ++ '-' :: (m ++ '-' :: d)).length = 10 := by
      simp only [List.length_append, List.length_cons, year.length, padded]
    have dash : (y ++ '-' :: (m ++ '-' :: d))[4]? = some '-' := by
      rw [List.getElem?_append_right (by simp [year.length]), year.length]
      rfl
    obtain ⟨tail, collapsed, next⟩ := exists_collapseBlanks_append blank nonempty clear follows rest
    rw [readDate?, collapsed, dropTime_append ten dash next]
    exact findSome?_dashed year month day

/-- A text that spells a date of the calendar is read as the number of days from 1970-01-01 to it,
or back to it, one after another, and a text that spells the next date as the next number. A text
that spells a month or a day that there is not is read as zero. -/
theorem dates_read_as_day_numbers {date : Date} {s : String} (spelled : Spells date s.toList) :
    (date.isValid = true ↔ ∃ n < 3652059, Date.next^[n] ⟨1, 1, 1⟩ = date) ∧
      (date.isValid = true →
        readDay (some s) = date.dayNumber ∧
        (∃ days : Nat, readDay (some s) = days ∧ Date.next^[days] ⟨1970, 1, 1⟩ = date ∨
          readDay (some s) = -days ∧ Date.next^[days] date = ⟨1970, 1, 1⟩) ∧
        ∀ s' : String, Spells date.next s'.toList → date.next.isValid = true →
          readDay (some s') = readDay (some s) + 1) ∧
      (date.isValid = false → readDay (some s) = 0) := by
  have read : ∀ {date : Date} {s : String}, Spells date s.toList → date.isValid = true →
      readDay (some s) = date.dayNumber := by
    intro date s spelled valid
    simp [readDay, readDate?_of_spells spelled, Date.inCalendar?, valid]
  refine ⟨Date.isValid_iff_iterate,
    fun valid => ⟨read spelled valid, ?_, fun s' spelled' valid' => ?_⟩, fun invalid => ?_⟩
  · rw [read spelled valid]
    exact Date.dayNumber_counts valid
  · rw [read spelled' valid', read spelled valid, Date.dayNumber_next valid]
  · simp [readDay, readDate?_of_spells spelled, Date.inCalendar?, invalid]

/-- The last day of a February, with its name in capitals and blanks all around, and one that there
is not, with a time of day. -/
theorem dates_read_as_day_numbers_february :
    readDay (some " FEBRUARY \t29,  2024 ") = 19782 ∧ readDay (some "2023-02-29T08:00") = 0 := by
  have digits : ∀ w : List Char, w.all isDecimal = true → ∀ c ∈ w, isDecimal c = true := fun w =>
    List.all_eq_true.1
  have clear : ∀ w : List Char, w.all (!isBlank ·) = true → ∀ c ∈ w, isBlank c = false := by simp
  constructor
  · have spelled : Spells ⟨2024, 2, 29⟩ " FEBRUARY \t29,  2024 ".toList := by
      have text : " FEBRUARY \t29,  2024 ".toList =
          ' ' :: ("FEBRUARY".toList ++
              ' ' :: '\t' :: ("29,".toList ++ ' ' :: ' ' :: ("2024".toList ++ ' ' :: []))) :=
        rfl
      rw [text]
      refine .words (.blank rfl (.word (by decide) (clear _ (by decide)) rfl
        (.blank rfl (.word (by decide) (clear _ (by decide)) rfl
          (.blank rfl (.word (by decide) (clear _ (by decide)) rfl .nil))))))
        (.nameFirstComma ?_ ?_ (.padded (by decide)))
      · exact ⟨rfl, digits _ (by decide), by decide⟩
      · exact ⟨"february", by decide, 9, by decide, by decide⟩
    exact ((dates_read_as_day_numbers spelled).2.1 (by decide)).1.trans (by decide)
  · have spelled : Spells ⟨2023, 2, 29⟩ "2023-02-29T08:00".toList := by
      have text : "2023-02-29T08:00".toList =
          [] ++ ("2023".toList ++ '-' :: ("02".toList ++ '-' :: "29".toList) ++
            'T' :: "08:00".toList) := rfl
      rw [text]
      refine .timed nofun ?_ (.padded (v := 2) (by decide)) (.padded (v := 29) (by decide))
        ⟨rfl, rfl⟩ (.inl rfl)
      exact ⟨rfl, digits _ (by decide), by decide⟩
    exact (dates_read_as_day_numbers spelled).2.2 (by decide)

end RecordAudit.Calendar
