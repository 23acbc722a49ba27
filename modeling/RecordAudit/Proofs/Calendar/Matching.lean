import Mathlib.Data.List.Basic
import Mathlib.Tactic.IntervalCases
import RecordAudit.Calendar.Spelling
import RecordAudit.Proofs.Reading.AmountText
import RecordAudit.Proofs.Text.Digit

/-!
# Matching the parts of dates

A number or the name of a month is followed by a separator, or ends the text. Of the ways in which a
piece begins a text at most one leaves a separator next, so a piece together with the separator
after it has one way to match, or none.
-/

namespace RecordAudit.Calendar

open Text

/-! ## What is written -/

/-- A number below 100, written in one digit or in two. -/
inductive WritesNumber (v : Nat) : List Char → Prop
  | padded (h : v < 100) : WritesNumber v [(v / 10).digitChar, (v % 10).digitChar]
  | short (h : v < 10) : WritesNumber v [v.digitChar]

/-- A year, written in four digits of any script. -/
structure WritesYear (year : Nat) (w : List Char) : Prop where
  length : w.length = 4
  decimal : ∀ c ∈ w, isDecimal c = true
  value : digitsValue w = year

/-- A month, written as its name or the first three letters of it, in any letter case. -/
def WritesMonth (month : Nat) (w : List Char) : Prop :=
  ∃ name, (name, month) ∈ monthNames.zipIdx 1 ∧
    ∃ letters ∈ [9, 3], w.map Char.toLower = name.toList.take letters

/-! ## Digits -/

theorem digitIn?_digitChar (low high : Nat) {k : Nat} (h : k < 10) :
    digitIn? low high k.digitChar = if low ≤ k ∧ k ≤ high then some k else none := by
  simp [digitIn?, Nat.toNat_digitChar_of_lt_ten h]

theorem toNat_of_isDecimal {c : Char} (h : isDecimal c = true) : c.toNat < 58 ∨ 123 ≤ c.toNat := by
  have apart : ∀ z ∈ zeroDigits, z + 10 ≤ 58 ∨ 123 ≤ z := by decide
  obtain ⟨v, found⟩ := Option.isSome_iff_exists.1 h
  obtain ⟨z, first, -⟩ := Option.map_eq_some_iff.1 found
  have within := List.find?_some first
  simp only [Bool.and_eq_true, decide_eq_true_eq] at within
  have := apart z (List.mem_of_find?_eq_some first)
  omega

theorem digitIn?_eq_none {low high : Nat} {c : Char} (h : isDecimal c = false) (le : high ≤ 9) :
    digitIn? low high c = none := by
  have no_figure : ¬(48 ≤ c.toNat ∧ c.toNat - 48 ≤ 9) := by
    rintro ⟨zero, nine⟩
    have same : c = (c.toNat - 48).digitChar := by
      apply Char.toNat_inj.1
      rw [Nat.toNat_digitChar_of_lt_ten (by omega)]
      omega
    rw [same, isDecimal_digitChar (by omega)] at h
    cases h
  have outside : ¬(48 ≤ c.toNat ∧ low ≤ c.toNat - 48 ∧ c.toNat - 48 ≤ high) := fun inside =>
    no_figure ⟨inside.1, by omega⟩
  simpa [digitIn?, and_assoc] using outside

/-! ## Separators -/

/-- Whether the piece is a single character that is no digit. -/
def Piece.separates : Piece → Bool
  | .gap => true
  | .mark c => !isDecimal c
  | _ => false

/-- Whether the character is one that the piece stands for. -/
def Piece.takes : Piece → Char → Bool
  | .gap, c => isBlank c
  | .mark m, c => c == m
  | _, _ => false

variable {sep : Piece} {ps : List Piece} {date : Date}

theorem matchSpelling_separator (h : sep.separates = true) (c : Char) (rest : List Char) :
    matchSpelling (sep :: ps) date (c :: rest) = if sep.takes c
        then matchSpelling ps date rest else [] := by
  cases sep with
  | gap | mark m =>
    simp only [matchSpelling, Piece.matches, Piece.takes]
    split <;> simp_all
  | year | month | day | monthName | monthShort => cases h

theorem Piece.takes_of_isDecimal (h : sep.separates = true) {c : Char}
    (digit : isDecimal c = true) :
    sep.takes c = false := by
  cases sep with
  | gap => exact isBlank_of_isDecimal digit
  | mark m =>
    simp only [Piece.separates, Bool.not_eq_true'] at h
    simp only [Piece.takes, beq_eq_false_iff_ne]
    rintro rfl
    rw [h] at digit
    cases digit
  | year | month | day | monthName | monthShort => cases h

/-! ## Numbers and the separators after them -/

/-- What follows a separator of one of the ways to go on. -/
def goOn (sep : Piece) (ps : List Piece) (date : Nat → Date) (found : Nat × List Char) :
    List (Date × List Char) :=
  matchSpelling (sep :: ps) (date found.1) found.2

theorem goOn_digit (h : sep.separates = true) {date : Nat → Date} (v : Nat) {c : Char}
    (digit : isDecimal c = true) (rest : List Char) : goOn sep ps date (v, c :: rest) = [] := by
  rw [goOn, matchSpelling_separator h, Piece.takes_of_isDecimal h digit]
  rfl

section Numbers

variable {v : Nat} {w : List Char} {c : Char} {rest : List Char}

theorem matchTwo_digits (tens low high : Nat) {a b : Nat} (first : a < 10) (second : b < 10)
    (rest : List Char) :
    matchTwo tens (digitIn? low high) (a.digitChar :: b.digitChar :: rest) =
      if a = tens ∧ low ≤ b ∧ b ≤ high then [(10 * tens + b, rest)] else [] := by
  simp only [matchTwo, digitIn?_digitChar _ _ first, digitIn?_digitChar _ _ second]
  grind

theorem matchTwo_figures (tens : Nat) {a b : Nat} (first : a < 10) (second : b < 10)
    (rest : List Char) :
    matchTwo tens digitValue? (a.digitChar :: b.digitChar :: rest) =
      if a = tens then [(10 * tens + b, rest)] else [] := by
  simp only [matchTwo, digitIn?_digitChar _ _ first, digitValue?_digitChar second]
  grind

theorem matchTwo_eq_nil {tens : Nat} {ones? : Char → Option Nat} {a : Char}
    (stop : ∀ c ∈ rest.head?, ones? c = none) : matchTwo tens ones? (a :: rest) = [] := by
  cases rest with
  | nil => rfl
  | cons c rest =>
    have stop : ones? c = none := stop c rfl
    simp only [matchTwo, stop]
    split <;> simp_all

theorem matchOne_digit {a : Nat} (h : a < 10) (rest : List Char) :
    matchOne (a.digitChar :: rest) = if 1 ≤ a then [(a, rest)] else [] := by
  simp only [matchOne, digitIn?_digitChar _ _ h]
  grind

/-- A number of two digits is read as a month if it is that of one. After this way comes the first
digit alone. -/
theorem matchMonth_padded (h : v < 100) (rest : List Char) :
    matchMonth ((v / 10).digitChar :: (v % 10).digitChar :: rest) =
      (if 1 ≤ v ∧ v ≤ 12 then [(v, rest)] else []) ++
        if 1 ≤ v / 10 then [(v / 10, (v % 10).digitChar :: rest)] else [] := by
  have first : v / 10 < 10 := by omega
  have second : v % 10 < 10 := by omega
  simp only [matchMonth, matchTwo_digits _ _ _ first second, matchOne_digit first]
  congr 1
  -- the first digit decides
  obtain ⟨one, number⟩ | ⟨zero, number⟩ | ⟨other, no_month⟩ : v / 10 = 1 ∧ 10 + v % 10 = v ∨
      v / 10 = 0 ∧ v % 10 = v ∨ (v / 10 ≠ 1 ∧ v / 10 ≠ 0) ∧ ¬(1 ≤ v ∧ v ≤ 12) := by omega
  · have month : v % 10 ≤ 2 ↔ 1 ≤ v ∧ v ≤ 12 := by omega
    simp [one, number, month]
  · have month : 1 ≤ v ∧ v ≤ 9 ↔ 1 ≤ v ∧ v ≤ 12 := by omega
    simp [zero, number, month]
  · simp [other, no_month]

theorem matchMonth_short (h : v < 10) (stop : ∀ c ∈ rest.head?, isDecimal c = false) :
    matchMonth (v.digitChar :: rest) = if 1 ≤ v then [(v, rest)] else [] := by
  have no_digit : ∀ low high, high ≤ 9 → ∀ c ∈ rest.head?, digitIn? low high c = none :=
    fun low high le c next => digitIn?_eq_none (stop c next) le
  simp only [matchMonth, matchTwo_eq_nil (no_digit 0 2 (by decide)),
    matchTwo_eq_nil (no_digit 1 9 (by decide)), List.nil_append, matchOne_digit h]

theorem matchDay_digit {a : Nat} (h : a < 10) (rest : List Char) :
    matchDay (a.digitChar :: rest) =
      matchTwo 3 (digitIn? 0 1) (a.digitChar :: rest) ++
        matchTwo 1 digitValue? (a.digitChar :: rest) ++
        matchTwo 2 digitValue? (a.digitChar :: rest) ++
        matchTwo 0 (digitIn? 1 9) (a.digitChar :: rest) ++
        matchOne (a.digitChar :: rest) := by
  have no_blank : a.digitChar ≠ ' ' := by
    interval_cases a <;> decide
  unfold matchDay
  split
  · simp_all
  · rw [List.append_nil]

theorem matchDay_padded (h : v < 100) (rest : List Char) :
    matchDay ((v / 10).digitChar :: (v % 10).digitChar :: rest) =
      (if 1 ≤ v ∧ v ≤ 31 then [(v, rest)] else []) ++
        if 1 ≤ v / 10 then [(v / 10, (v % 10).digitChar :: rest)] else [] := by
  have first : v / 10 < 10 := by omega
  have second : v % 10 < 10 := by omega
  rw [matchDay_digit first]
  simp only [matchTwo_digits _ _ _ first second, matchTwo_figures _ first second,
    matchOne_digit first]
  congr 1
  -- the first digit decides
  obtain ⟨three, number⟩ | ⟨one, number⟩ | ⟨two, number⟩ | ⟨zero, number⟩ | ⟨other, no_day⟩ :
      v / 10 = 3 ∧ 30 + v % 10 = v ∨ v / 10 = 1 ∧ 10 + v % 10 = v ∨ v / 10 = 2 ∧ 20 + v % 10 = v ∨
        v / 10 = 0 ∧ v % 10 = v ∨ 4 ≤ v / 10 ∧ ¬(1 ≤ v ∧ v ≤ 31) := by omega
  · have day : v % 10 ≤ 1 ↔ 1 ≤ v ∧ v ≤ 31 := by omega
    simp [three, number, day]
  · have day : 1 ≤ v ∧ v ≤ 31 := by omega
    simp [one, number, day]
  · have day : 1 ≤ v ∧ v ≤ 31 := by omega
    simp [two, number, day]
  · have day : 1 ≤ v ∧ v ≤ 9 ↔ 1 ≤ v ∧ v ≤ 31 := by omega
    simp [zero, number, day]
  · have none_fits : v / 10 ≠ 3 ∧ v / 10 ≠ 1 ∧ v / 10 ≠ 2 ∧ v / 10 ≠ 0 := by omega
    simp [none_fits, no_day]

theorem matchDay_short (h : v < 10) (stop : ∀ c ∈ rest.head?, isDecimal c = false) :
    matchDay (v.digitChar :: rest) = if 1 ≤ v then [(v, rest)] else [] := by
  have no_digit : ∀ low high, high ≤ 9 → ∀ c ∈ rest.head?, digitIn? low high c = none :=
    fun low high le c next => digitIn?_eq_none (stop c next) le
  have no_figure : ∀ c ∈ rest.head?, digitValue? c = none := fun c next => by
    simpa [isDecimal] using stop c next
  rw [matchDay_digit h]
  simp only [matchTwo_eq_nil (no_digit 0 1 (by decide)), matchTwo_eq_nil (no_digit 1 9 (by decide)),
    matchTwo_eq_nil no_figure, List.nil_append, matchOne_digit h]

theorem flatMap_ite {α β : Type} (p : Prop) [Decidable p] (x : α) (f : α → List β) :
    (if p then [x] else []).flatMap f = if p then f x else [] := by
  split <;> simp

/-- Of the ways to read a month only the whole number leaves a separator next. -/
theorem flatMap_matchMonth (isSep : sep.separates = true) (written : WritesNumber v w)
    (stop : isDecimal c = false) (date : Nat → Date) :
    (matchMonth (w ++ c :: rest)).flatMap (goOn sep ps date) =
      if 1 ≤ v ∧ v ≤ 12 then goOn sep ps date (v, c :: rest) else [] := by
  cases written with
  | padded h =>
    have digit : goOn sep ps date (v / 10, (v % 10).digitChar :: c :: rest) = [] :=
      goOn_digit isSep _ (isDecimal_digitChar (by omega)) _
    simp only [List.cons_append, List.nil_append, matchMonth_padded h, List.flatMap_append,
      flatMap_ite, digit, ite_self, List.append_nil]
  | short h =>
    have below : 1 ≤ v ↔ 1 ≤ v ∧ v ≤ 12 := by omega
    have stops : ∀ d ∈ (c :: rest).head?, isDecimal d = false :=
      fun d next => Option.some.inj next ▸ stop
    simp only [List.cons_append, List.nil_append, matchMonth_short h stops, flatMap_ite, ← below]

theorem flatMap_matchDay (isSep : sep.separates = true) (written : WritesNumber v w)
    (stop : isDecimal c = false) (date : Nat → Date) :
    (matchDay (w ++ c :: rest)).flatMap (goOn sep ps date) =
      if 1 ≤ v ∧ v ≤ 31 then goOn sep ps date (v, c :: rest) else [] := by
  cases written with
  | padded h =>
    have digit : goOn sep ps date (v / 10, (v % 10).digitChar :: c :: rest) = [] :=
      goOn_digit isSep _ (isDecimal_digitChar (by omega)) _
    simp only [List.cons_append, List.nil_append, matchDay_padded h, List.flatMap_append,
      flatMap_ite, digit, ite_self, List.append_nil]
  | short h =>
    have below : 1 ≤ v ↔ 1 ≤ v ∧ v ≤ 31 := by omega
    have stops : ∀ d ∈ (c :: rest).head?, isDecimal d = false :=
      fun d next => Option.some.inj next ▸ stop
    simp only [List.cons_append, List.nil_append, matchDay_short h stops, flatMap_ite, ← below]

/-! ## Pieces and the separators after them -/

/-- A number that is followed by the separator is read as a month if it is that of one. -/
theorem matchSpelling_month (isSep : sep.separates = true) (written : WritesNumber v w)
    (stop : isDecimal c = false) :
    matchSpelling (.month :: sep :: ps) date (w ++ c :: rest) =
      if (1 ≤ v ∧ v ≤ 12) ∧ sep.takes c then matchSpelling ps { date with month := v } rest
      else [] := by
  rw [matchSpelling, Piece.matches, List.flatMap_map]
  refine (flatMap_matchMonth isSep written stop fun v => { date with month := v }).trans ?_
  rw [goOn, matchSpelling_separator isSep, ← ite_and]

theorem matchSpelling_day (isSep : sep.separates = true) (written : WritesNumber v w)
    (stop : isDecimal c = false) :
    matchSpelling (.day :: sep :: ps) date (w ++ c :: rest) =
      if (1 ≤ v ∧ v ≤ 31) ∧ sep.takes c then matchSpelling ps { date with day := v } rest
      else [] := by
  rw [matchSpelling, Piece.matches, List.flatMap_map]
  refine (flatMap_matchDay isSep written stop fun v => { date with day := v }).trans ?_
  rw [goOn, matchSpelling_separator isSep, ← ite_and]

theorem matchYear_writesYear {year : Nat} (written : WritesYear year w) (rest : List Char) :
    matchYear (w ++ rest) = [(year, rest)] := by
  obtain ⟨four, decimal, rfl⟩ := written
  match w, four with
  | [a, b, c, d], _ =>
    have digits : [a, b, c, d].all isDecimal = true := List.all_eq_true.2 decimal
    simp only [matchYear, List.cons_append, List.nil_append, digits, if_true]

theorem matchSpelling_year {year : Nat} (isSep : sep.separates = true)
    (written : WritesYear year w) :
    matchSpelling (.year :: sep :: ps) date (w ++ c :: rest) =
      if sep.takes c then matchSpelling ps { date with year := year } rest else [] := by
  rw [matchSpelling, Piece.matches, matchYear_writesYear written]
  simp [matchSpelling_separator isSep]

theorem matchSpelling_year_last {year : Nat} (written : WritesYear year w) :
    matchSpelling [.year] date w = [({ date with year := year }, [])] := by
  have parts := matchYear_writesYear written []
  rw [List.append_nil] at parts
  simp [matchSpelling, Piece.matches, parts]

end Numbers

/-! ## Names and the blanks after them -/

theorem names_lowercase :
    ∀ e ∈ monthNames.zipIdx 1, ∀ l ∈ e.1.toList, 97 ≤ l.toNat ∧ l.toNat ≤ 122 := by
  have checked : ((monthNames.zipIdx 1).all fun e => e.1.toList.all fun l => 97 ≤ l.toNat &&
      l.toNat ≤ 122) = true := by
    decide
  simpa only [List.all_eq_true, Bool.and_eq_true, decide_eq_true_eq] using checked

theorem take_name_ne_nil :
    ∀ e ∈ monthNames.zipIdx 1, ∀ letters ∈ [9, 3], e.1.toList.take letters ≠ [] := by decide

theorem letter_of_toLower {c : Char} (h : 97 ≤ c.toLower.toNat ∧ c.toLower.toNat ≤ 122) :
    65 ≤ c.toNat ∧ c.toNat ≤ 122 := by
  unfold Char.toLower at h
  split at h
  · next upper =>
    have first : 65 ≤ c.toNat := upper.1
    have last : c.toNat ≤ 90 := upper.2
    omega
  · omega

namespace WritesMonth

variable {month : Nat} {w : List Char}

theorem toNat_mem (written : WritesMonth month w) {c : Char} (h : c ∈ w) :
    65 ≤ c.toNat ∧ c.toNat ≤ 122 := by
  obtain ⟨name, isMonth, letters, -, lower⟩ := written
  have inName : c.toLower ∈ name.toList := by
    have mapped : c.toLower ∈ w.map Char.toLower := List.mem_map_of_mem h
    rw [lower] at mapped
    exact List.mem_of_mem_take mapped
  exact letter_of_toLower (names_lowercase _ isMonth _ inName)

theorem ne_nil (written : WritesMonth month w) : w ≠ [] := by
  obtain ⟨name, isMonth, letters, cut, lower⟩ := written
  rintro rfl
  exact take_name_ne_nil _ isMonth _ cut lower.symm

theorem isDecimal_eq_false (written : WritesMonth month w) {c : Char} (h : c ∈ w) :
    isDecimal c = false := by
  have letter := written.toNat_mem h
  by_contra digit
  have := toNat_of_isDecimal (c := c) (by simpa using digit)
  omega

theorem isBlank_eq_false (written : WritesMonth month w) {c : Char} (h : c ∈ w) :
    isBlank c = false := by
  have letter := written.toNat_mem h
  have apart : ∀ r ∈ blankRanges, r.2 < 65 ∨ 122 < r.1 := by decide
  by_contra blank
  obtain ⟨r, mem, low, high⟩ := inRanges_iff.1 ((Bool.not_eq_false _).mp blank)
  have := apart r mem
  omega

end WritesMonth

/-- A name is found in front of a blank where it is all that stands there. -/
theorem matchSpelling_dropName? (name w rest : List Char) (noBlank : ' ' ∉ name)
    (letters : ∀ c ∈ w, isBlank c = false) :
    ((dropName? name (w ++ ' ' :: rest)).toList).flatMap (matchSpelling (.gap :: ps) date) =
      if w.map Char.toLower = name then matchSpelling ps date rest else [] := by
  have gap := @matchSpelling_separator .gap ps date rfl
  induction name generalizing w with
  | nil =>
    cases w with
    | nil =>
      have blank : isBlank ' ' = true := by decide
      simp [dropName?, gap, Piece.takes, blank]
    | cons c w =>
      have letter := letters c (by simp)
      simp [dropName?, gap, Piece.takes, letter]
  | cons n name ih =>
    cases w with
    | nil =>
      have other : ' ' ≠ n := fun same => noBlank (same ▸ List.mem_cons_self)
      simp [dropName?, other]
    | cons c w =>
      have tail := ih w (fun mem => noBlank (by simp [mem]))
        (fun d mem => letters d (by simp [mem]))
      by_cases same : c.toLower = n
      · simpa [dropName?, same] using tail
      · simp [dropName?, same]

theorem flatMap_eq_of_mem {α β : Type} {l : List α} {f : α → List β} {a : α} (distinct : l.Nodup)
    (mem : a ∈ l) (other : ∀ b ∈ l, b ≠ a → f b = []) : l.flatMap f = f a := by
  induction l with
  | nil => cases mem
  | cons b l ih =>
    obtain ⟨fresh, distinct⟩ := List.nodup_cons.1 distinct
    rcases List.mem_cons.1 mem with rfl | inTail
    · have rest : l.flatMap f = [] :=
        List.flatMap_eq_nil_iff.2 fun c mem => other c (by simp [mem]) fun same =>
          fresh (same ▸ mem)
      rw [List.flatMap_cons, rest, List.append_nil]
    · have none_first := other b (by simp) fun same => fresh (same ▸ inTail)
      rw [List.flatMap_cons, none_first, List.nil_append]
      exact ih distinct inTail fun c mem => other c (by simp [mem])

/-- The name of a month in front of a blank is read where names are cut as it is. -/
theorem flatMap_matchMonths {month : Nat} {name : String} {w : List Char}
    (isMonth : (name, month) ∈ monthNames.zipIdx 1) {letters : Nat} (cut : letters ∈ [9, 3])
    (lower : w.map Char.toLower = name.toList.take letters) {letters' : Nat}
    (cut' : letters' ∈ [9, 3]) (rest : List Char) (date : Nat → Date) :
    (matchMonths letters' (w ++ ' ' :: rest)).flatMap (goOn .gap ps date) =
      if name.toList.take letters = name.toList.take letters'
        then matchSpelling ps (date month) rest else [] := by
  have written : WritesMonth month w := ⟨name, isMonth, letters, cut, lower⟩
  have no_blank : ∀ e ∈ monthNames.zipIdx 1, ∀ k, ' ' ∉ e.1.toList.take k := by
    intro e mem k inName
    have none_blank : ∀ e ∈ monthNames.zipIdx 1, ' ' ∉ e.1.toList := by decide
    exact none_blank e mem (List.mem_of_mem_take inName)
  have found : ∀ e ∈ monthNames.zipIdx 1,
      (((dropName? (e.1.toList.take letters') (w ++ ' ' :: rest)).map (e.2, ·)).toList).flatMap
          (goOn .gap ps date) =
        if name.toList.take letters = e.1.toList.take letters' then matchSpelling ps (date e.2) rest
        else [] := by
    intro e mem
    rw [← lower, ← matchSpelling_dropName? _ w rest (no_blank e mem letters') fun c mem =>
      written.isBlank_eq_false mem]
    cases dropName? (e.1.toList.take letters') (w ++ ' ' :: rest) <;> rfl
  have apart : ∀ e ∈ monthNames.zipIdx 1, ∀ e' ∈ monthNames.zipIdx 1, ∀ k ∈ [9, 3], ∀ k' ∈ [9, 3],
      e' ≠ e → e.1.toList.take k ≠ e'.1.toList.take k' := by decide
  have distinct : (monthNames.zipIdx 1).Nodup := by decide
  rw [matchMonths, List.filterMap_eq_flatMap_toList, List.flatMap_assoc]
  generalize monthNames.zipIdx 1 = months at isMonth found apart distinct ⊢
  have alone := flatMap_eq_of_mem distinct isMonth fun e mem other =>
    (found e mem).trans (if_neg (apart _ isMonth e mem letters cut letters' cut' other))
  exact alone.trans (found _ isMonth)

section Names

variable {month : Nat} {name : String} {letters : Nat} {w rest : List Char}

theorem matchSpelling_monthName (isMonth : (name, month) ∈ monthNames.zipIdx 1)
    (cut : letters ∈ [9, 3]) (lower : w.map Char.toLower = name.toList.take letters) :
    matchSpelling (.monthName :: .gap :: ps) date (w ++ ' ' :: rest) =
      if name.toList.take letters = name.toList.take 9
        then matchSpelling ps { date with month := month } rest
      else [] := by
  rw [matchSpelling, Piece.matches, List.flatMap_map]
  exact flatMap_matchMonths isMonth cut lower (show 9 ∈ [9, 3] by decide) rest fun v =>
    { date with month := v }

theorem matchSpelling_monthShort (isMonth : (name, month) ∈ monthNames.zipIdx 1)
    (cut : letters ∈ [9, 3]) (lower : w.map Char.toLower = name.toList.take letters) :
    matchSpelling (.monthShort :: .gap :: ps) date (w ++ ' ' :: rest) =
      if name.toList.take letters = name.toList.take 3
        then matchSpelling ps { date with month := month } rest
      else [] := by
  rw [matchSpelling, Piece.matches, List.flatMap_map]
  exact flatMap_matchMonths isMonth cut lower (show 3 ∈ [9, 3] by decide) rest fun v =>
    { date with month := v }

end Names

/-! ## Parts that are none of a piece -/

section Mismatches

variable {v year month : Nat} {w rest : List Char} {c : Char}

theorem WritesNumber.decimal (written : WritesNumber v w) : ∀ c ∈ w, isDecimal c = true := by
  cases written with
  | padded h =>
    simp [isDecimal_digitChar (k := v / 10) (by omega),
      isDecimal_digitChar (k := v % 10) (by omega)]
  | short h => simp [isDecimal_digitChar h]

theorem WritesNumber.ne_nil (written : WritesNumber v w) : w ≠ [] := by
  cases written <;> simp

theorem WritesNumber.length_le (written : WritesNumber v w) : w.length ≤ 2 := by
  cases written <;> simp

theorem WritesYear.ne_nil (written : WritesYear year w) : w ≠ [] := by
  rintro rfl
  cases written.length

theorem matchSpelling_year_number (written : WritesNumber v w) (stop : isDecimal c = false) :
    matchSpelling (.year :: ps) date (w ++ c :: rest) = [] := by
  have none_found : matchYear (w ++ c :: rest) = [] := by
    cases written with
    | padded h | short h =>
      simp only [List.cons_append, List.nil_append]
      unfold matchYear
      split
      · simp_all
      · rfl
  simp [matchSpelling, Piece.matches, none_found]

theorem drop_of_mem_matchTwo {tens : Nat} {ones? : Char → Option Nat} {cs : List Char}
    {x : Nat × List Char} (h : x ∈ matchTwo tens ones? cs) : x.2 = cs.drop 2 := by
  unfold matchTwo at h
  split at h
  · split at h <;> simp_all
  · cases h

theorem drop_of_mem_matchOne {cs : List Char} {x : Nat × List Char} (h : x ∈ matchOne cs) :
    x.2 = cs.drop 1 := by
  unfold matchOne at h
  split at h
  · obtain ⟨v, -, rfl⟩ := Option.map_eq_some_iff.1 (Option.mem_toList.1 h)
    rfl
  · cases h

theorem drop_of_mem_matchMonth {cs : List Char} {x : Nat × List Char} (h : x ∈ matchMonth cs) :
    x.2 = cs.drop 1 ∨ x.2 = cs.drop 2 := by
  simp only [matchMonth, List.mem_append] at h
  obtain (two | two) | one := h
  · exact .inr (drop_of_mem_matchTwo two)
  · exact .inr (drop_of_mem_matchTwo two)
  · exact .inl (drop_of_mem_matchOne one)

theorem drop_of_mem_matchDay {cs : List Char} {x : Nat × List Char} (h : x ∈ matchDay cs) :
    x.2 = cs.drop 1 ∨ x.2 = cs.drop 2 := by
  simp only [matchDay, List.mem_append] at h
  obtain ((((two | two) | two) | two) | one) | blank := h
  · exact .inr (drop_of_mem_matchTwo two)
  · exact .inr (drop_of_mem_matchTwo two)
  · exact .inr (drop_of_mem_matchTwo two)
  · exact .inr (drop_of_mem_matchTwo two)
  · exact .inl (drop_of_mem_matchOne one)
  · split at blank
    · exact .inr (drop_of_mem_matchOne blank)
    · cases blank

theorem goOn_year (isSep : sep.separates = true) (written : WritesYear year w) (date : Nat → Date)
    {x : Nat × List Char} (h : x.2 = (w ++ rest).drop 1 ∨ x.2 = (w ++ rest).drop 2) :
    goOn sep ps date x = [] := by
  obtain ⟨four, decimal, -⟩ := written
  obtain ⟨v, tail⟩ := x
  match w, four with
  | [a, b, c, d], _ =>
    rcases h with h | h
    · obtain rfl : tail = b :: c :: d :: rest := h
      exact goOn_digit isSep v (decimal b (by simp)) _
    · obtain rfl : tail = c :: d :: rest := h
      exact goOn_digit isSep v (decimal c (by simp)) _

theorem matchSpelling_month_year (isSep : sep.separates = true) (written : WritesYear year w) :
    matchSpelling (.month :: sep :: ps) date (w ++ rest) = [] := by
  rw [matchSpelling, Piece.matches, List.flatMap_map]
  exact List.flatMap_eq_nil_iff.2 fun x mem =>
    goOn_year isSep written (fun v => { date with month := v }) (drop_of_mem_matchMonth mem)

theorem matchSpelling_day_year (isSep : sep.separates = true) (written : WritesYear year w) :
    matchSpelling (.day :: sep :: ps) date (w ++ rest) = [] := by
  rw [matchSpelling, Piece.matches, List.flatMap_map]
  exact List.flatMap_eq_nil_iff.2 fun x mem =>
    goOn_year isSep written (fun v => { date with day := v }) (drop_of_mem_matchDay mem)

/-- A text that begins with the name of a month begins with no number. -/
theorem matchSpelling_letters (written : WritesMonth month w) {p : Piece}
    (number : p ∈ [.year, .month, .day]) :
    matchSpelling (p :: ps) date (w ++ rest) = [] := by
  obtain ⟨c, cs, rfl⟩ := List.exists_cons_of_ne_nil written.ne_nil
  have no_digit := written.isDecimal_eq_false (c := c) List.mem_cons_self
  have no_blank : c ≠ ' ' := by
    rintro rfl
    exact absurd (written.isBlank_eq_false List.mem_cons_self) (by decide)
  rw [List.cons_append]
  generalize cs ++ rest = rest
  have no_tens : ∀ {tens : Nat} {ones? : Char → Option Nat}, tens ≤ 9 →
      matchTwo tens ones? (c :: rest) = [] := by
    intro tens ones? le
    unfold matchTwo
    split
    · next h =>
      obtain ⟨rfl, -⟩ := List.cons.inj h
      rw [digitIn?_eq_none no_digit le]
    · rfl
  have none_one : matchOne (c :: rest) = [] := by
    rw [matchOne, digitIn?_eq_none no_digit (by decide)]
    rfl
  have none_found : p.matches date (c :: rest) = [] := by
    simp only [List.mem_cons, List.not_mem_nil, or_false] at number
    rcases number with rfl | rfl | rfl
    · have none_year : matchYear (c :: rest) = [] := by
        unfold matchYear
        split
        · simp_all
        · rfl
      simp [Piece.matches, none_year]
    · simp [Piece.matches, matchMonth, no_tens, none_one]
    · have none_day : matchDay (c :: rest) = [] := by
        unfold matchDay
        split
        · simp_all
        · simp [no_tens, none_one]
      simp [Piece.matches, none_day]
  rw [matchSpelling, none_found, List.flatMap_nil]

/-- A text that begins with digits begins with no name. -/
theorem matchSpelling_digits (nonempty : w ≠ []) (digits : ∀ c ∈ w, isDecimal c = true) {p : Piece}
    (isName : p ∈ [.monthName, .monthShort]) : matchSpelling (p :: ps) date (w ++ rest) = [] := by
  obtain ⟨c, cs, rfl⟩ := List.exists_cons_of_ne_nil nonempty
  have none_found : ∀ letters ∈ [9, 3], matchMonths letters (c :: (cs ++ rest)) = [] := by
    intro letters cut
    refine List.filterMap_eq_nil_iff.2 fun e mem => ?_
    obtain ⟨l, ls, name⟩ := List.exists_cons_of_ne_nil (take_name_ne_nil e mem letters cut)
    have inName : l ∈ e.1.toList := List.mem_of_mem_take (name ▸ List.mem_cons_self)
    have other : c.toLower ≠ l := by
      rintro rfl
      have := letter_of_toLower (names_lowercase e mem _ inName)
      have := toNat_of_isDecimal (digits c List.mem_cons_self)
      omega
    simp [name, dropName?, other]
  simp only [List.mem_cons, List.not_mem_nil, or_false] at isName
  rcases isName with rfl | rfl <;> simp [matchSpelling, Piece.matches, none_found]

end Mismatches

end RecordAudit.Calendar
