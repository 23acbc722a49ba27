import RecordAudit.Text.Blank

/-!
# Words between blanks

A text is cut at its blanks: runs of blanks between its words, and blanks around them, leave no
trace.
-/

namespace RecordAudit.Text

/-! ## Pieces -/

theorem splitByBlanks_append {u w : List Char} {ws : List (List Char)} {cs : List Char}
    (clear : ∀ c ∈ u, isBlank c = false) (split : words.splitByBlanks cs = w :: ws) :
    words.splitByBlanks (u ++ cs) = (u ++ w) :: ws := by
  induction u with
  | nil => exact split
  | cons c u ih =>
    have tail := ih fun d mem => clear d (by simp [mem])
    simp [words.splitByBlanks, clear c (by simp), tail]

theorem splitByBlanks_blank {c : Char} (blank : isBlank c = true) (cs : List Char) :
    words.splitByBlanks (c :: cs) = [] :: words.splitByBlanks cs := by
  simp [words.splitByBlanks, blank]

theorem exists_splitByBlanks (cs : List Char) : ∃ w ws, words.splitByBlanks cs = w :: ws := by
  cases cs with
  | nil => exact ⟨_, _, rfl⟩
  | cons c rest =>
    rw [words.splitByBlanks]
    split
    · exact ⟨_, _, rfl⟩
    · split <;> exact ⟨_, _, rfl⟩

/-! ## Words -/

theorem words_blank {c : Char} (blank : isBlank c = true) (cs : List Char) :
    words (c :: cs) = words cs := by
  simp [words, splitByBlanks_blank blank]

theorem words_blanks {before : List Char} (blank : ∀ c ∈ before, isBlank c = true)
    (cs : List Char) :
    words (before ++ cs) = words cs := by
  induction before with
  | nil => rfl
  | cons c before ih =>
    rw [List.cons_append, words_blank (blank c (by simp)), ih fun d mem => blank d (by simp [mem])]

section Word

variable {w : List Char} (nonempty : w ≠ []) (clear : ∀ c ∈ w, isBlank c = false)
include nonempty clear

theorem words_word : words w = [w] := by
  have split := splitByBlanks_append clear (rfl : words.splitByBlanks [] = [[]])
  simp only [List.append_nil] at split
  simp [words, split, nonempty]

theorem words_word_blank {c : Char} (blank : isBlank c = true) (cs : List Char) :
    words (w ++ c :: cs) = w :: words cs := by
  rw [words, splitByBlanks_append clear (splitByBlanks_blank blank cs), List.append_nil]
  simp [words, nonempty]

end Word

/-- The text consists of these words, with blanks between neighbours and perhaps around all of
them. -/
inductive Spaced : List (List Char) → List Char → Prop
  | nil : Spaced [] []
  | blank {c : Char} {ws : List (List Char)} {cs : List Char} (isBlank : isBlank c = true)
      (rest : Spaced ws cs) :
      Spaced ws (c :: cs)
  | last {w : List Char} (nonempty : w ≠ []) (clear : ∀ c ∈ w, isBlank c = false) : Spaced [w] w
  | word {c : Char} {w : List Char} {ws : List (List Char)} {cs : List Char} (nonempty : w ≠ [])
      (clear : ∀ c ∈ w, isBlank c = false) (isBlank : isBlank c = true) (rest : Spaced ws cs) :
      Spaced (w :: ws) (w ++ c :: cs)

theorem words_of_spaced {ws : List (List Char)} {cs : List Char} (h : Spaced ws cs) :
    words cs = ws := by
  induction h with
  | nil => rfl
  | blank isBlank _ ih => rw [words_blank isBlank, ih]
  | last nonempty clear => exact words_word nonempty clear
  | word nonempty clear isBlank _ ih => rw [words_word_blank nonempty clear isBlank, ih]

/-! ## One blank between neighbours -/

theorem exists_intercalate_cons (w : List Char) (ws : List (List Char)) :
    ∃ tail, List.intercalate [' '] (w :: ws) = w ++ tail ∧ ∀ c ∈ tail.head?, c = ' ' := by
  cases ws with
  | nil => exact ⟨[], by rw [List.intercalate_singleton, List.append_nil], by simp⟩
  | cons w' ws => exact ⟨_, by rw [List.intercalate_cons_cons, List.append_assoc], by simp⟩

/-- A word at the start of a text stays there, whatever follows it after a blank or the letter
`T`. -/
theorem exists_collapseBlanks_append {before w : List Char} (blank : ∀ c ∈ before, isBlank c = true)
    (nonempty : w ≠ []) (clear : ∀ c ∈ w, isBlank c = false) {c : Char}
    (follows : c = 'T' ∨ isBlank c = true) (rest : List Char) :
    ∃ tail, collapseBlanks (before ++ (w ++ c :: rest)) = w ++ tail ∧
      ∀ d ∈ tail.head?, d = 'T' ∨ d = ' ' := by
  rw [collapseBlanks, words_blanks blank]
  rcases follows with rfl | isBlank
  · obtain ⟨u, us, split⟩ := exists_splitByBlanks rest
    have clear' : ∀ c ∈ w ++ ['T'], isBlank c = false := by
      intro c mem
      rcases List.mem_append.1 mem with inWord | last
      · exact clear c inWord
      · rw [List.mem_singleton.1 last]
        decide
    have found := splitByBlanks_append clear' split
    obtain ⟨tail, joined, -⟩ := exists_intercalate_cons (w ++ 'T' :: u) (us.filter (!·.isEmpty))
    refine ⟨'T' :: (u ++ tail), ?_, by simp⟩
    simp only [List.append_assoc, List.singleton_append] at found
    rw [words, found, List.filter_cons_of_pos (by simp [nonempty]), joined, List.append_assoc,
      List.cons_append]
  · obtain ⟨tail, joined, next⟩ := exists_intercalate_cons w (words rest)
    exact ⟨tail, by rw [words_word_blank nonempty clear isBlank, joined], fun d mem =>
      .inr (next d mem)⟩

end RecordAudit.Text
