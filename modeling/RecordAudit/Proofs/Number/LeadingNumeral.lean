import Mathlib.Data.List.Infix
import Mathlib.Data.List.TakeWhile
import RecordAudit.Number.Numeral

/-!
# The longest numeral at the start of a text

A numeral is written as a sign, digits with or without a point, and an exponent part. Reading it
takes as many characters as any numeral at the start of the text has, so a part that comes to
nothing, such as the letter of an exponent without digits, is left in the text.

## Main definitions

* `WrittenNumeral`: the characters of a numeral, part by part.
* `WrittenNumeral.IsLongestIn`: the numeral begins a text, and no longer one does.
-/

namespace RecordAudit.Number

open Text

/-! ## What is written -/

/-- The exponent part of a numeral: a letter, an optional sign, and digits of any script. -/
structure ExponentPart where
  letter : Char
  sign : Option Char
  digits : List Char
  letter_mem : letter ∈ ['e', 'E']
  sign_mem : ∀ c ∈ sign, c ∈ ['-', '+']
  digits_decimal : ∀ c ∈ digits, isDecimal c = true
  some_digit : digits ≠ []

namespace ExponentPart

def chars (p : ExponentPart) : List Char := p.letter :: (p.sign.toList ++ p.digits)

def value (p : ExponentPart) : Int :=
  if p.sign = some '-' then -(digitsValue p.digits : Int) else digitsValue p.digits

end ExponentPart

/-- The characters of a numeral: an optional sign, digits of any script with an optional fraction,
and an optional exponent part. There is a digit on one side of the point at least. -/
structure WrittenNumeral where
  sign : Option Char
  whole : List Char
  fraction : Option (List Char)
  exponent : Option ExponentPart
  sign_mem : ∀ c ∈ sign, c ∈ ['-', '+']
  whole_decimal : ∀ c ∈ whole, isDecimal c = true
  fraction_decimal : ∀ c ∈ fraction.getD [], isDecimal c = true
  some_digit : whole ≠ [] ∨ fraction.getD [] ≠ []

namespace WrittenNumeral

def places (n : WrittenNumeral) : List Char := n.fraction.getD []

def pointed (n : WrittenNumeral) : List Char := n.fraction.elim [] ('.' :: ·)

def chars (n : WrittenNumeral) : List Char :=
  n.sign.toList ++ (n.whole ++ (n.pointed ++ n.exponent.elim [] ExponentPart.chars))

def numeral (n : WrittenNumeral) : Numeral where
  negative := n.sign == some '-'
  coefficient := digitsValue (n.whole ++ n.places)
  exponent := n.exponent.elim 0 ExponentPart.value - n.places.length

/-- The numeral begins the text, and none that begins the text has more characters. -/
structure IsLongestIn (n : WrittenNumeral) (cs : List Char) : Prop where
  begins : n.chars <+: cs
  longest : ∀ n' : WrittenNumeral, n'.chars <+: cs → n'.chars.length ≤ n.chars.length

end WrittenNumeral

/-! ## Signs -/

theorem splitSign_eq_self {cs : List Char} (h : ∀ c ∈ cs.head?, c ≠ '-' ∧ c ≠ '+') :
    splitSign cs = (false, cs) := by
  unfold splitSign
  split
  · exact absurd rfl (h '-' rfl).1
  · exact absurd rfl (h '+' rfl).2
  · rfl

theorem splitSign_append {sign : Option Char} (mem : ∀ c ∈ sign, c ∈ ['-', '+']) {cs : List Char}
    (unsigned : ∀ c ∈ cs.head?, c ≠ '-' ∧ c ≠ '+') :
    splitSign (sign.toList ++ cs) = (sign == some '-', cs) := by
  cases sign with
  | none => exact splitSign_eq_self unsigned
  | some c =>
    have known := mem c rfl
    simp only [List.mem_cons, List.not_mem_nil, or_false] at known
    rcases known with rfl | rfl <;> rfl

theorem exists_sign (cs : List Char) :
    ∃ sign : Option Char, (∀ c ∈ sign, c ∈ ['-', '+']) ∧ cs = sign.toList ++ (splitSign cs).2 ∧
      (splitSign cs).1 = (sign == some '-') := by
  unfold splitSign
  split
  · exact ⟨some '-', by simp, rfl, rfl⟩
  · exact ⟨some '+', by simp, rfl, rfl⟩
  · exact ⟨none, by simp, rfl, rfl⟩

theorem ne_of_isDecimal {c d : Char} (digit : isDecimal c = true)
    (mem : d ∈ ['-', '+', '.', 'e', 'E']) : c ≠ d := by
  have none_digit : ['-', '+', '.', 'e', 'E'].any isDecimal = false := by decide
  rintro rfl
  exact List.any_eq_false.1 none_digit c mem digit

/-! ## Digits -/

section Digits

variable {ds rest : List Char} (digits : ∀ c ∈ ds, isDecimal c = true)
include digits

theorem splitDigits_digits (rest : List Char) :
    splitDigits (ds ++ rest) = (ds ++ rest.takeWhile isDecimal, rest.dropWhile isDecimal) := by
  simp [splitDigits, List.takeWhile_append_of_pos digits, List.dropWhile_append_of_pos digits]

theorem splitDigits_append (stop : ∀ c ∈ rest.head?, isDecimal c = false) :
    splitDigits (ds ++ rest) = (ds, rest) := by
  rw [splitDigits_digits digits]
  cases rest with
  | nil => simp
  | cons c cs => simp [stop c rfl]

end Digits

theorem splitDigits_spec (cs : List Char) :
    cs = (splitDigits cs).1 ++ (splitDigits cs).2 ∧ ∀ c ∈ (splitDigits cs).1, isDecimal c = true :=
  ⟨List.takeWhile_append_dropWhile.symm, fun _ mem => List.mem_takeWhile_imp mem⟩

/-! ## Significands -/

namespace WrittenNumeral

variable (n : WrittenNumeral) {rest : List Char}

/-- The digits of a numeral are split off as a whole when neither a digit nor a point follows
them. -/
theorem splitSignificand?_append (stop : ∀ c ∈ rest.head?, isDecimal c = false ∧ c ≠ '.') :
    splitSignificand? (n.whole ++ (n.pointed ++ rest)) = some (⟨n.whole, n.places⟩, rest) := by
  have digit := n.some_digit
  have fraction_decimal := n.fraction_decimal
  have point : ∀ ds : List Char, ∀ c ∈ ('.' :: ds).head?, isDecimal c = false := by simp; decide
  unfold pointed places splitSignificand?
  cases fraction : n.fraction with
  | none =>
    rw [fraction] at digit
    have split := splitDigits_append n.whole_decimal fun c first => (stop c first).1
    cases whole : n.whole with
    | nil => simp_all
    | cons c cs =>
      simp only [whole, List.cons_append] at split
      cases rest with
      | nil => simp_all
      | cons d ds => simp [split, (stop d rfl).2]
  | some ds =>
    rw [fraction] at digit fraction_decimal
    have split := splitDigits_append n.whole_decimal (point (ds ++ rest))
    have after := splitDigits_append fraction_decimal fun c first => (stop c first).1
    simp only [Option.getD_some] at after digit
    cases whole : n.whole with
    | nil =>
      rw [whole] at split digit
      cases ds with
      | nil => simp at digit
      | cons d ds => simp_all
    | cons c cs => simp_all

/-- Whatever follows the digits of a numeral, they are split off, perhaps with more. -/
theorem exists_splitSignificand? (tail : List Char) :
    ∃ significand rest, splitSignificand? (n.whole ++ (n.pointed ++ tail)) =
      some (significand, rest) ∧ rest <:+ tail := by
  have digit := n.some_digit
  have fraction_decimal := n.fraction_decimal
  have point : ∀ ds : List Char, ∀ c ∈ ('.' :: ds).head?, isDecimal c = false := by simp; decide
  have after_digits : tail.dropWhile isDecimal <:+ tail := List.dropWhile_suffix _
  unfold pointed splitSignificand?
  cases fraction : n.fraction with
  | none =>
    rw [fraction] at digit
    have split := splitDigits_digits n.whole_decimal tail
    cases whole : n.whole with
    | nil => simp_all
    | cons c cs =>
      rw [whole] at split
      simp only [Option.elim_none, List.nil_append, split]
      generalize tail.dropWhile isDecimal = left at after_digits
      cases left with
      | nil => exact ⟨_, _, rfl, List.nil_suffix⟩
      | cons d ds =>
        by_cases isPoint : d = '.'
        · subst isPoint
          have further : ds.dropWhile isDecimal <:+ ds := List.dropWhile_suffix _
          exact ⟨_, _, rfl, further.trans ((List.suffix_cons _ _).trans after_digits)⟩
        · exact ⟨⟨c :: (cs ++ tail.takeWhile isDecimal), []⟩, _, by simp [isPoint], after_digits⟩
  | some ds =>
    rw [fraction] at digit fraction_decimal
    have split := splitDigits_append n.whole_decimal (point (ds ++ tail))
    have after := splitDigits_digits fraction_decimal tail
    simp only [Option.getD_some] at after digit
    refine ⟨⟨n.whole, ds ++ tail.takeWhile isDecimal⟩, _, ?_, after_digits⟩
    cases whole : n.whole with
    | nil =>
      rw [whole] at split digit
      cases ds with
      | nil => simp at digit
      | cons d ds => simp_all
    | cons c cs => simp_all

end WrittenNumeral

/-- What is split off as a significand are digits with or without a point, and a digit at least. -/
theorem exists_fraction {cs rest : List Char} {significand : Significand}
    (split : splitSignificand? cs = some (significand, rest)) :
    ∃ fraction : Option (List Char), cs = significand.whole ++
      (fraction.elim [] ('.' :: ·) ++ rest) ∧ fraction.getD [] = significand.fraction ∧
      (∀ c ∈ significand.whole, isDecimal c = true) ∧
      (∀ c ∈ significand.fraction, isDecimal c = true) ∧
      (significand.whole ≠ [] ∨ significand.fraction ≠ []) := by
  obtain ⟨whole_eq, whole_decimal⟩ := splitDigits_spec cs
  unfold splitSignificand? at split
  split at split
  · next after digits =>
    obtain ⟨fraction_eq, fraction_decimal⟩ := splitDigits_spec after
    split at split
    · cases split
    · next ds left some_digit further =>
      cases split
      rw [digits] at whole_eq
      rw [further] at fraction_eq fraction_decimal
      exact ⟨some ds, by simp [whole_eq, fraction_eq], rfl, by simp, fraction_decimal,
        .inr fun nil => some_digit nil⟩
  · cases split
  · next whole after some_digit digits =>
    obtain ⟨fraction_eq, fraction_decimal⟩ := splitDigits_spec after
    cases split
    rw [digits] at whole_eq whole_decimal
    have parts : cs = whole ++ '.' :: ((splitDigits after).1 ++ (splitDigits after).2) :=
      whole_eq.trans (congrArg (fun left => whole ++ '.' :: left) fraction_eq)
    exact ⟨some (splitDigits after).1, parts, rfl, whole_decimal, fraction_decimal, .inl fun nil =>
      some_digit nil⟩
  · next some_digit _ digits =>
    cases split
    rw [digits] at whole_eq whole_decimal
    exact ⟨none, by simpa using whole_eq, rfl, whole_decimal, by simp, .inl fun nil =>
      some_digit nil⟩

/-! ## Exponent parts -/

theorem splitExponent_eq_self {cs : List Char} (h : ∀ c ∈ cs.head?, c ∉ ['e', 'E']) :
    splitExponent cs = (0, cs) := by
  cases cs with
  | nil => rfl
  | cons c rest =>
    have other := h c rfl
    simp_all [splitExponent]

namespace ExponentPart

variable (p : ExponentPart)

theorem ends_significand (tail : List Char) :
    ∀ c ∈ (p.chars ++ tail).head?, isDecimal c = false ∧ c ≠ '.' := by
  intro c first
  obtain rfl : p.letter = c := by simpa [chars] using first
  have letter := p.letter_mem
  simp only [List.mem_cons, List.not_mem_nil, or_false] at letter
  rcases letter with e | e <;> rw [e] <;> decide

theorem splitExponent_append {rest : List Char} (stop : ∀ c ∈ rest.head?, isDecimal c = false) :
    splitExponent (p.chars ++ rest) = (p.value, rest) := by
  have letter : (p.letter == 'e' || p.letter == 'E') = true := by simpa using p.letter_mem
  obtain ⟨d, ds, digits⟩ := List.exists_cons_of_ne_nil p.some_digit
  have unsigned : ∀ c ∈ (p.digits ++ rest).head?, c ≠ '-' ∧ c ≠ '+' := by
    intro c first
    obtain rfl : d = c := by simpa [digits] using first
    have digit : isDecimal d = true := p.digits_decimal d (by simp [digits])
    exact ⟨ne_of_isDecimal digit (by simp), ne_of_isDecimal digit (by simp)⟩
  have sign := splitSign_append p.sign_mem unsigned
  have split := splitDigits_append p.digits_decimal stop
  simp only [chars, List.cons_append, List.append_assoc, splitExponent, letter,
    if_true, sign, split]
  simp [digits, value]

theorem splitExponent_suffix (tail : List Char) : (splitExponent (p.chars ++ tail)).2 <:+ tail := by
  -- digits that follow belong to the exponent as well
  let longer : ExponentPart :=
    { p with
      digits := p.digits ++ tail.takeWhile isDecimal
      digits_decimal := fun c mem => (List.mem_append.1 mem).elim (p.digits_decimal c)
        List.mem_takeWhile_imp
      some_digit := fun nil => p.some_digit (List.append_eq_nil_iff.1 nil).1 }
  have rejoined : p.chars ++ tail = longer.chars ++ tail.dropWhile isDecimal := by
    simp [chars, longer]
  have stop : ∀ c ∈ (tail.dropWhile isDecimal).head?, isDecimal c = false := fun c first => by
    simpa [Option.mem_def.1 first] using List.head?_dropWhile_not isDecimal tail
  rw [rejoined, longer.splitExponent_append stop]
  exact List.dropWhile_suffix _

end ExponentPart

theorem exists_exponent (cs : List Char) :
    ∃ part : Option ExponentPart, cs = part.elim [] ExponentPart.chars ++ (splitExponent cs).2 ∧
      (splitExponent cs).1 = part.elim 0 ExponentPart.value := by
  cases cs with
  | nil => exact ⟨none, rfl, rfl⟩
  | cons c rest =>
    by_cases letter : (c == 'e' || c == 'E') = true
    · obtain ⟨sign, sign_mem, sign_eq, negative⟩ := exists_sign rest
      obtain ⟨digits_eq, decimal⟩ := splitDigits_spec (splitSign rest).2
      rcases digits : splitDigits (splitSign rest).2 with ⟨ds, left⟩
      rw [digits] at digits_eq decimal
      cases ds with
      | nil =>
        exact ⟨none, by simp [splitExponent, letter, digits], by simp [splitExponent,
          letter, digits]⟩
      | cons d ds =>
        let p : ExponentPart := ⟨c, sign,
          d :: ds, by simpa using letter, sign_mem, decimal, List.cons_ne_nil _ _⟩
        have split : splitExponent (c :: rest) = (p.value, left) := by
          simp [splitExponent, letter, digits, ExponentPart.value, p, negative]
        refine ⟨some p, ?_, by simp [split]⟩
        rw [split, sign_eq, digits_eq]
        simp [ExponentPart.chars, p]
    · exact ⟨none, by simp [splitExponent, letter], by simp [splitExponent, letter]⟩

/-! ## Numerals -/

namespace WrittenNumeral

variable (n : WrittenNumeral)

theorem unsigned (tail : List Char) :
    ∀ c ∈ (n.whole ++ (n.pointed ++ tail)).head?, c ≠ '-' ∧ c ≠ '+' := by
  intro c first
  have first_cases : isDecimal c = true ∨ c = '.' := by
    have digit := n.some_digit
    have whole_decimal := n.whole_decimal
    unfold pointed at first
    cases whole : n.whole with
    | nil =>
      cases fraction : n.fraction with
      | none => simp_all
      | some ds => exact .inr (by simpa [whole, fraction, eq_comm] using first)
    | cons d ds => simp_all
  rcases first_cases with digit | rfl
  · exact ⟨ne_of_isDecimal digit (by simp), ne_of_isDecimal digit (by simp)⟩
  · decide

/-- A numeral is split off as a whole when what follows it cannot go on with it. -/
theorem splitNumeral?_append {rest : List Char}
    (stop : ∀ c ∈ rest.head?, isDecimal c = false ∧ c ∉ ['.', 'e', 'E']) :
    splitNumeral? (n.chars ++ rest) = some (n.numeral, rest) := by
  have sign := splitSign_append n.sign_mem
    (n.unsigned (n.exponent.elim [] ExponentPart.chars ++ rest))
  have exponent : splitExponent (n.exponent.elim [] ExponentPart.chars ++ rest) =
      (n.exponent.elim 0 ExponentPart.value, rest) := by
    cases n.exponent with
    | none => exact splitExponent_eq_self fun c first => by simp_all
    | some p => exact p.splitExponent_append fun c first => (stop c first).1
  have ends : ∀ c ∈ (n.exponent.elim [] ExponentPart.chars ++ rest).head?, isDecimal c = false ∧
      c ≠ '.' := by
    cases n.exponent with
    | none => exact fun c first => ⟨(stop c first).1, by simp_all⟩
    | some p => exact p.ends_significand rest
  simp only [chars, List.append_assoc, splitNumeral?, sign,
    n.splitSignificand?_append ends, exponent]
  rfl

theorem splitNumeral?_chars : splitNumeral? n.chars = some (n.numeral, []) := by
  have nothing_follows : ∀ c ∈ ([] : List Char).head?, isDecimal c = false ∧
    c ∉ ['.', 'e', 'E'] := nofun
  simpa using n.splitNumeral?_append nothing_follows

theorem exists_splitNumeral? (tail : List Char) :
    ∃ x rest, splitNumeral? (n.chars ++ tail) = some (x, rest) ∧ rest <:+ tail := by
  have sign := splitSign_append n.sign_mem
    (n.unsigned (n.exponent.elim [] ExponentPart.chars ++ tail))
  simp only [chars, List.append_assoc, splitNumeral?, sign]
  cases n.exponent with
  | none =>
    obtain ⟨significand, left, split, suffix⟩ := n.exists_splitSignificand? tail
    obtain ⟨part, exponent_eq, -⟩ := exists_exponent left
    simp only [Option.elim_none, List.nil_append, split]
    exact ⟨_, _, rfl, List.IsSuffix.trans ⟨_, exponent_eq.symm⟩ suffix⟩
  | some p =>
    simp only [Option.elim_some, n.splitSignificand?_append (p.ends_significand tail)]
    exact ⟨_, _, rfl, p.splitExponent_suffix tail⟩

end WrittenNumeral

theorem exists_written {cs rest : List Char} {x : Numeral}
    (split : splitNumeral? cs = some (x, rest)) :
    ∃ n : WrittenNumeral, cs = n.chars ++ rest ∧ n.numeral = x := by
  obtain ⟨sign, sign_mem, sign_eq, negative⟩ := exists_sign cs
  unfold splitNumeral? at split
  dsimp only at split
  split at split
  · cases split
  · next significand left found =>
    obtain ⟨fraction, significand_eq, places, whole_decimal, fraction_decimal, some_digit⟩ :=
      exists_fraction found
    obtain ⟨exponent, exponent_eq, value⟩ := exists_exponent left
    cases split
    let n : WrittenNumeral :=
      ⟨sign, significand.whole, fraction, exponent, sign_mem, whole_decimal,
        places ▸ fraction_decimal, places ▸ some_digit⟩
    have written : cs = n.chars ++ (splitExponent left).2 := by
      rw [sign_eq, significand_eq]
      conv_lhs => rw [exponent_eq]
      simp [WrittenNumeral.chars, WrittenNumeral.pointed, n]
    exact ⟨n, written, by simp [WrittenNumeral.numeral, WrittenNumeral.places, n, negative,
      places, value]⟩

/-! ## Longest numerals -/

/-- The numeral that is split off is the longest one. -/
theorem splitNumeral?_eq_some_iff {cs rest : List Char} {x : Numeral} :
    splitNumeral? cs = some (x, rest) ↔
      ∃ n : WrittenNumeral, n.IsLongestIn cs ∧ n.numeral = x ∧ cs = n.chars ++ rest := by
  have longest : ∀ (n : WrittenNumeral) (rest : List Char) (x : Numeral), splitNumeral? cs =
      some (x, rest) → cs = n.chars ++ rest → n.IsLongestIn cs := by
    intro n rest x split written
    refine ⟨⟨rest, written.symm⟩, ?_⟩
    rintro n' ⟨tail, begins⟩
    obtain ⟨x', rest', split', suffix⟩ := n'.exists_splitNumeral? tail
    rw [begins, split] at split'
    cases split'
    have shorter := suffix.length_le
    have same := congrArg List.length (begins.trans written)
    simp only [List.length_append] at same
    omega
  constructor
  · intro split
    obtain ⟨n, written, rfl⟩ := exists_written split
    exact ⟨n, longest n rest _ split written, rfl, written⟩
  · rintro ⟨n, isLongest, rfl, written⟩
    obtain ⟨x, rest', split, -⟩ := n.exists_splitNumeral? rest
    rw [← written] at split
    obtain ⟨n', written', rfl⟩ := exists_written split
    have isLongest' := longest n' rest' _ split written'
    have same_length : n.chars.length = n'.chars.length :=
      Nat.le_antisymm (isLongest'.longest n isLongest.begins)
        (isLongest.longest n' isLongest'.begins)
    obtain ⟨same_chars, rfl⟩ := List.append_inj (written.symm.trans written') same_length
    -- the characters of a numeral tell its parts
    have same_split := n.splitNumeral?_chars
    rw [same_chars, n'.splitNumeral?_chars] at same_split
    obtain ⟨same_numeral, -⟩ := Prod.mk.inj (Option.some.inj same_split)
    rw [split, same_numeral]

theorem splitNumeral?_eq_none_iff {cs : List Char} :
    splitNumeral? cs = none ↔ ∀ n : WrittenNumeral, ¬n.chars <+: cs := by
  constructor
  · rintro none n ⟨tail, rfl⟩
    obtain ⟨x, rest, split, -⟩ := n.exists_splitNumeral? tail
    rw [none] at split
    cases split
  · intro absent
    cases split : splitNumeral? cs with
    | none => rfl
    | some found =>
      obtain ⟨x, rest⟩ := found
      obtain ⟨n, written, -⟩ := exists_written split
      exact absurd ⟨rest, written.symm⟩ (absent n)

/-- What is read is the longest numeral at the start of the trimmed text, when it lies inside the
limits. -/
theorem leadingNumeral?_eq_some_iff {cs : List Char} {x : Numeral} :
    leadingNumeral? cs = some x ↔
      ∃ n : WrittenNumeral, n.IsLongestIn (trim cs) ∧ n.numeral = x ∧ x.withinLimits = true := by
  constructor
  · intro found
    unfold leadingNumeral? at found
    split at found
    · next y rest split =>
      split at found
      · next within =>
        cases found
        obtain ⟨n, isLongest, rfl, -⟩ := splitNumeral?_eq_some_iff.1 split
        exact ⟨n, isLongest, rfl, within⟩
      · cases found
    · cases found
  · rintro ⟨n, isLongest, rfl, within⟩
    obtain ⟨rest, written⟩ := isLongest.begins
    have split := splitNumeral?_eq_some_iff.2 ⟨n, isLongest, rfl, written.symm⟩
    simp [leadingNumeral?, split, within]

theorem leadingNumeral?_eq_none_iff {cs : List Char} :
    leadingNumeral? cs = none ↔
      (∀ n : WrittenNumeral, ¬n.chars <+: trim cs) ∨
        ∃ n : WrittenNumeral, n.IsLongestIn (trim cs) ∧ n.numeral.withinLimits = false := by
  constructor
  · intro none
    cases split : splitNumeral? (trim cs) with
    | none => exact .inl (splitNumeral?_eq_none_iff.1 split)
    | some found =>
      obtain ⟨n, isLongest, -, -⟩ := splitNumeral?_eq_some_iff.1 split
      refine .inr ⟨n, isLongest, Bool.eq_false_iff.2 fun within => ?_⟩
      rw [leadingNumeral?_eq_some_iff.2 ⟨n, isLongest, rfl, within⟩] at none
      cases none
  · rintro (absent | ⟨n, isLongest, beyond⟩)
    · simp [leadingNumeral?, splitNumeral?_eq_none_iff.2 absent]
    · obtain ⟨rest, written⟩ := isLongest.begins
      have split := splitNumeral?_eq_some_iff.2 ⟨n, isLongest, rfl, written.symm⟩
      simp [leadingNumeral?, split, beyond]

/-- The number at the start of a text is what the longest numeral there writes, whatever follows it:
its sign, its digits without leading zeros, and its exponent. There is none when no numeral begins
the trimmed text, or when the longest one has an exponent beyond the limits. -/
theorem leading_numeral_longest (cs : List Char) :
    (∀ x, leadingNumeral? cs = some x ↔
      ∃ n : WrittenNumeral, n.IsLongestIn (trim cs) ∧ n.numeral = x ∧ x.withinLimits = true) ∧
    (leadingNumeral? cs = none ↔
      (∀ n : WrittenNumeral, ¬n.chars <+: trim cs) ∨
        ∃ n : WrittenNumeral, n.IsLongestIn (trim cs) ∧ n.numeral.withinLimits = false) :=
  ⟨fun _ => leadingNumeral?_eq_some_iff, leadingNumeral?_eq_none_iff⟩

/-- Two leading zeros, a digit of another script, and the letter of an exponent without digits. -/
theorem leading_numeral_longest_partial_exponent :
    let cs := " -001.٥0e+ days".toList
    leadingNumeral? cs = some ⟨true, 150, -2⟩ ∧
      ∃ n : WrittenNumeral, n.IsLongestIn (trim cs) ∧ n.numeral = ⟨true, 150, -2⟩ := by
  intro cs
  have found : leadingNumeral? cs = some ⟨true, 150, -2⟩ := by decide
  obtain ⟨n, isLongest, value, -⟩ := ((leading_numeral_longest cs).1 _).1 found
  exact ⟨found, n, isLongest, value⟩

end RecordAudit.Number
