import RecordAudit.Proofs.Solver.Candidates
import RecordAudit.Proofs.Solver.Decider
import RecordAudit.Proofs.Solver.Lines

/-!
# Decisions over free variables

Where all comparisons are linear, a valuation that makes assertions true can be moved to candidates
without a comparison changing its truth. A search that finds nothing therefore means that there is
nothing, and Boolean combinations of comparisons in one variable are always decided.
-/

namespace RecordAudit

variable {as : List (Expr .bool)} {pins : Pins} {v w : Valuation} {s : VariableSort} {name : String}

/-! ## Moving a valuation to candidates -/

theorem Numeric.order_mul {x y : Rat} (k : Rat)
    (same : order .real x (0 : Rat) = order .real y (0 : Rat)) :
    order .real (k * x) (0 : Rat) = order .real (k * y) (0 : Rat) := by
  rcases lt_trichotomy x 0 with hx | rfl | hx
  · have hy : y < 0 := order_eq_lt_iff.1 (same ▸ order_eq_lt_iff.2 hx)
    rcases lt_trichotomy k 0 with hk | rfl | hk
    · exact order_eq_order_of_gt (mul_pos_of_neg_of_neg hk hx) (mul_pos_of_neg_of_neg hk hy)
    · rw [zero_mul, zero_mul]
    · exact order_eq_order_of_lt (mul_neg_of_pos_of_neg hk hx) (mul_neg_of_pos_of_neg hk hy)
  · have hy : y = 0 := (order_eq_iff (n := .real)).1 (same ▸ (order_eq_iff (n := .real)).2 rfl)
    rw [hy]
  · have hy : 0 < y := order_eq_gt_iff.1 (same ▸ order_eq_gt_iff.2 hx)
    rcases lt_trichotomy k 0 with hk | rfl | hk
    · exact order_eq_order_of_lt (mul_neg_of_neg_of_pos hk hx) (mul_neg_of_neg_of_pos hk hy)
    · rw [zero_mul, zero_mul]
    · exact order_eq_order_of_gt (mul_pos hk hx) (mul_pos hk hy)

/-- A line stays on its side of zero when its variable keeps its place among the crossings. -/
theorem Line.sameSide_of_samePlace {lines : List (List Line)}
    (same : ∀ n name, SamePlace (crossings lines (.numeric n) name) (n.toRat (v (.numeric n) name))
      (n.toRat (w (.numeric n) name)))
    {ls : List Line} (isLines : ls ∈ lines) {l : Line} (mem : l ∈ ls) : l.SameSide v w := by
  cases l with
  | constant q => rfl
  | through n name slope offset =>
    by_cases flat : slope = 0
    · simp [SameSide, valueAt, flat]
    have crosses : -offset / slope ∈ crossings lines (.numeric n) name := by
      refine List.mem_eraseDups.2
        (List.mem_flatMap.2 ⟨ls, isLines, List.mem_filterMap.2 ⟨_, mem, ?_⟩⟩)
      simp [crossing?, flat]
    have fromCrossing : ∀ x : Rat, slope * x + offset = slope * (x - -offset / slope) := fun x => by
      field_simp
      ring
    rw [SameSide, valueAt, valueAt, fromCrossing, fromCrossing]
    have place := same n name _ crosses
    refine Numeric.order_mul slope ?_
    exact (Numeric.order_eq_order_sub (n := .real) _ _).symm.trans
      (place.trans (Numeric.order_eq_order_sub (n := .real) _ _))

/-- A value that compares as another with some points: a truth value is the same, and a number has
the same place. -/
def StandsFor (points : List Rat) : {s : VariableSort} → s.Carrier → s.Carrier → Prop
  | .bool, c, x => c = x
  | .text, _, _ => True
  | .numeric n, c, x => SamePlace points (n.toRat c) (n.toRat x)

theorem StandsFor.refl (points : List Rat) (x : s.Carrier) : StandsFor points x x := by
  cases s with
  | bool => rfl
  | text => trivial
  | numeric n => exact fun p mem => rfl

/-- One of the values to try stands for a value. -/
theorem exists_standsFor (points : List Rat) (x : s.Carrier) :
    ∃ c ∈ candidates s points, StandsFor points c x := by
  cases s with
  | bool => exact ⟨x, by cases x <;> simp [candidates], rfl⟩
  | text => exact ⟨"", by simp [candidates], trivial⟩
  | numeric n => exact exists_candidate n points x

/-- When assertions hold under a valuation, every variable has a value to try that stands for its
own. -/
theorem exists_among (holds : ∀ e ∈ as, e.eval w = true) (s : VariableSort) (name : String) :
    ∃ c, StandsFor (crossings (linesOf as) s name) c (w s name) ∧
      (∀ value, pinsOf as s name = some value → c = value) ∧
      (pinsOf as s name = none → c ∈ candidates s (crossings (linesOf as) s name)) := by
  cases pin : pinsOf as s name with
  | some value =>
    refine ⟨w s name, .refl _ _, fun other same => ?_, nofun⟩
    obtain rfl := Option.some.inj same
    exact pinsOf_sound holds pin
  | none =>
    obtain ⟨c, mem, stands⟩ := exists_standsFor (crossings (linesOf as) s name) (w s name)
    exact ⟨c, stands, nofun, fun _ => mem⟩

/-- When assertions hold somewhere and all comparisons are linear, they hold at values to try. -/
theorem exists_among_domains
    (linear : ∀ d ∈ as.flatMap (Expr.differences (pinsOf as)), d.isSome = true)
    (holds : ∀ e ∈ as, e.eval w = true) :
    ∃ v : Valuation, (∀ e ∈ as, e.eval v = true) ∧
      ∀ d ∈ domainsOf as, v d.sort d.name ∈ d.values := by
  choose v stands pinned free using exists_among holds
  have alike : (pinsOf as).Alike v w :=
    ⟨fun s name value pin => ⟨pinned s name value pin, pinsOf_sound holds pin⟩, stands .bool⟩
  have sides : ∀ d ∈ as.flatMap (Expr.differences (pinsOf as)), ∃ ls, d = some ls ∧
      ∀ l ∈ ls, l.SameSide v w := by
    intro d mem
    obtain ⟨ls, rfl⟩ := Option.isSome_iff_exists.1 (linear d mem)
    have isLines : ls ∈ linesOf as := List.mem_filterMap.2 ⟨_, mem, rfl⟩
    exact ⟨ls, rfl, fun l => Line.sameSide_of_samePlace (fun n => stands (.numeric n)) isLines⟩
  refine ⟨v, fun e mem => ?_, fun d mem => ?_⟩
  · rw [← holds e mem]
    exact e.alike alike fun d inE => sides d (List.mem_flatMap.2 ⟨e, mem, inE⟩)
  · obtain ⟨-, ⟨value, pin, values⟩ | ⟨unpinned, values⟩⟩ := domain_cases mem
    · rw [values, pinned _ _ _ pin]
      exact List.mem_singleton.2 rfl
    · rw [values]
      exact free _ _ unpinned

/-! ## Decisions -/

/-- When all comparisons are linear, assertions that hold somewhere are seen to be satisfiable. -/
theorem decideAssertions_of_linear
    (linear : ∀ d ∈ as.flatMap (Expr.differences (pinsOf as)), d.isSome = true)
    (holds : ∀ e ∈ as, e.eval w = true) : ∃ v, decideAssertions as = .satisfied v := by
  obtain ⟨v, holds', among⟩ := exists_among_domains linear holds
  obtain ⟨u, -, decided⟩ := exists_search holds' among
  exact ⟨u, decided⟩

theorem decideAssertions_unsatisfiable (h : decideAssertions as = .unsatisfiable) :
    ∀ w : Valuation, ∃ e ∈ as, e.eval w = false := by
  intro w
  by_contra! holds
  simp only [ne_eq, Bool.not_eq_false] at holds
  have covers : covered as (as.flatMap (Expr.differences (pinsOf as))) = true := by
    by_contra uncovered
    unfold decideAssertions at h
    dsimp only at h
    split at h
    · cases h
    · rw [if_neg uncovered] at h
      cases h
  rw [covered, Bool.or_eq_true] at covers
  have satisfied : ∃ v, decideAssertions as = .satisfied v := by
    rcases covers with pinned | linear
    · obtain ⟨v, decided, -⟩ := decideAssertions_of_holds (List.all_eq_true.1 pinned) holds
      exact ⟨v, decided⟩
    · exact decideAssertions_of_linear (List.all_eq_true.1 linear) holds
  obtain ⟨v, decided⟩ := satisfied
  rw [decided] at h
  cases h

theorem decideAssertions_decided
    (linear : ∀ d ∈ as.flatMap (Expr.differences (pinsOf as)), d.isSome = true) :
    decideAssertions as ≠ .undecided := by
  have covers : covered as (as.flatMap (Expr.differences (pinsOf as))) = true := by
    rw [covered, Bool.or_eq_true]
    exact .inr (List.all_eq_true.2 linear)
  unfold decideAssertions
  dsimp only
  rw [if_pos covers]
  split <;> simp

/-! ## Comparisons in one variable -/

namespace Line

variable {n m : Numeric}

def IsConstant : Line → Prop
  | .constant _ => True
  | .through .. => False

/-- The line goes with no other variable. -/
def Over (n : Numeric) (name : String) : Line → Prop
  | .constant _ => True
  | .through m other _ _ => m = n ∧ other = name

theorem IsConstant.over {a : Line} (ha : a.IsConstant) : a.Over n name := by
  cases a with
  | constant q => trivial
  | through => cases ha

theorem Over.scale {a : Line} (factor : Rat) (ha : a.Over n name) :
    (a.scale factor).Over n name := by
  cases a with
  | constant q => trivial
  | through => exact ha

theorem IsConstant.scale {a : Line} (factor : Rat) (ha : a.IsConstant) :
    (a.scale factor).IsConstant := by
  cases a with
  | constant q => trivial
  | through => exact ha

theorem Over.add {a b : Line} (ha : a.Over n name) (hb : b.Over n name) :
    ∃ c, a.add b = some c ∧ c.Over n name := by
  cases a with
  | constant p =>
    cases b with
    | constant q => exact ⟨_, rfl, trivial⟩
    | through => exact ⟨_, rfl, hb⟩
  | through =>
    cases b with
    | constant q => exact ⟨_, rfl, ha⟩
    | through =>
      obtain ⟨rfl, rfl⟩ := ha
      obtain ⟨rfl, rfl⟩ := hb
      exact ⟨_, if_pos ⟨rfl, rfl⟩, rfl, rfl⟩

theorem Over.sub {a b : Line} (ha : a.Over n name) (hb : b.Over n name) :
    ∃ c, a.sub b = some c ∧ c.Over n name :=
  ha.add (hb.scale (-1))

theorem Over.mul {a b : Line} (ha : a.Over n name) (hb : b.Over n name)
    (constant : a.IsConstant ∨ b.IsConstant) :
    ∃ c, a.mul b = some c ∧ c.Over n name := by
  cases a with
  | constant p => exact ⟨_, rfl, hb.scale p⟩
  | through =>
    cases b with
    | constant q => exact ⟨_, rfl, ha.scale q⟩
    | through => exact absurd constant (by simp [IsConstant])

theorem IsConstant.arith {a b : Line} (op : ArithOp) (ha : a.IsConstant) (hb : b.IsConstant) :
    ∃ c, Line.arith m op a b = some c ∧ c.IsConstant := by
  cases a with
  | through => cases ha
  | constant p =>
    cases b with
    | through => cases hb
    | constant q => cases op <;> cases m <;> exact ⟨_, rfl, trivial⟩

theorem exists_combine {P : Line → Prop} {f : Line → Line → Option Line} {ls ls' : List Line}
    (each : ∀ a ∈ ls, ∀ b ∈ ls', ∃ c, f a b = some c ∧ P c) :
    ∃ cs, combine f ls ls' = some cs ∧ ∀ c ∈ cs, P c := by
  have all : ∀ xs : List (Option Line), (∀ x ∈ xs, ∃ c, x = some c ∧ P c) →
      ∃ cs, xs.mapM id = some cs ∧ ∀ c ∈ cs, P c := by
    intro xs ofAll
    induction xs with
    | nil => exact ⟨[], rfl, nofun⟩
    | cons x rest ih =>
      obtain ⟨⟨c, rfl, hc⟩, ofRest⟩ := List.forall_mem_cons.1 ofAll
      obtain ⟨cs, found, hcs⟩ := ih ofRest
      exact ⟨c :: cs, by simp [List.mapM_cons, found], List.forall_mem_cons.2 ⟨hc, hcs⟩⟩
  obtain ⟨cs, found, hcs⟩ := all (ls.flatMap fun a => ls'.map (f a)) fun x mem => by
    obtain ⟨a, ha, inPairs⟩ := List.mem_flatMap.1 mem
    obtain ⟨b, hb, rfl⟩ := List.mem_map.1 inPairs
    exact each a ha b hb
  exact ⟨cs.eraseDups, by rw [combine, found]; rfl, fun c mem => hcs c (List.mem_eraseDups.1 mem)⟩

end Line

namespace Expr

variable {n m : Numeric}

/-- An expression in which nothing is compared and that lies on lines of a kind. -/
structure On (pins : Pins) (P : Line → Prop) (a : Expr (.numeric m)) : Prop where
  lines : ∃ ls, a.lines? pins = some ls ∧ ∀ l ∈ ls, P l
  differences : a.differences pins = []

namespace On

variable {P Q R : Line → Prop} {a b : Expr (.numeric m)}

theorem mono (ha : a.On pins P) (weaker : ∀ l, P l → Q l) : a.On pins Q := by
  obtain ⟨⟨ls, found, all⟩, none⟩ := ha
  exact ⟨⟨ls, found, fun l mem => weaker l (all l mem)⟩, none⟩

theorem arith {op : ArithOp} (ha : a.On pins P) (hb : b.On pins Q)
    (each : ∀ la lb, P la → Q lb → ∃ l, Line.arith m op la lb = some l ∧ R l) :
    (arith op a b).On pins R := by
  obtain ⟨⟨as, ofA, allA⟩, noneA⟩ := ha
  obtain ⟨⟨bs, ofB, allB⟩, noneB⟩ := hb
  obtain ⟨ls, combined, all⟩ :=
    Line.exists_combine fun la memA lb memB => each la lb (allA la memA) (allB lb memB)
  refine ⟨⟨ls, ?_, all⟩, ?_⟩
  · rw [lines?, ofA, ofB]
    exact combined
  · rw [Expr.differences, noneA, noneB, List.append_nil]

theorem negate (ha : a.On pins P) (scaled : ∀ l, P l → P (l.scale (-1))) :
    (negate a).On pins P := by
  obtain ⟨⟨ls, found, all⟩, none⟩ := ha
  refine ⟨⟨ls.map (Line.scale (-1)), ?_, ?_⟩, ?_⟩
  · rw [lines?, found]
    rfl
  · simpa using fun l mem => scaled l (all l mem)
  · rw [Expr.differences, none]

theorem toReal {a : Expr .int} (ha : a.On pins P) : (toReal a).On pins P := by
  obtain ⟨lines, none⟩ := ha
  refine ⟨?_, ?_⟩
  · rwa [lines?]
  · rw [Expr.differences, none]

theorem compare {name : String} (c : Comparison) (ha : a.On pins (Line.Over n name))
    (hb : b.On pins (Line.Over n name)) :
    ∀ d ∈ (Expr.compare c a b).differences pins, d.isSome = true := by
  obtain ⟨⟨as, ofA, overA⟩, noneA⟩ := ha
  obtain ⟨⟨bs, ofB, overB⟩, noneB⟩ := hb
  obtain ⟨ls, combined, -⟩ :=
    Line.exists_combine fun la memA lb memB => (overA la memA).sub (overB lb memB)
  intro d mem
  rw [Expr.differences, noneA, noneB, ofA, ofB] at mem
  obtain rfl := List.mem_singleton.1 mem
  exact Option.isSome_iff_exists.2 ⟨ls, combined⟩

end On

theorem Literal.isConstant {a : Expr (.numeric m)} (ha : a.Literal) (pins : Pins) :
    a.On pins Line.IsConstant := by
  induction ha with
  | const value =>
    refine ⟨?_, ?_⟩
    · rw [lines?]
      exact ⟨_, rfl, by simp [Line.IsConstant]⟩
    · rw [Expr.differences]
  | toReal _ ih => exact ih.toReal
  | negate _ ih => exact ih.negate fun l => .scale (-1)
  | arith op _ _ _ iha ihb => exact iha.arith ihb fun la lb isA isB => isA.arith op isB

theorem Linear.over {a : Expr (.numeric m)} (ha : a.Linear n name) (pins : Pins) :
    a.On pins (Line.Over n name) := by
  induction ha with
  | var =>
    refine ⟨?_, ?_⟩
    · rw [lines?]
      split
      · exact ⟨_, rfl, by simp [Line.Over]⟩
      · exact ⟨_, rfl, by simp [Line.Over]⟩
    · rw [Expr.differences]
  | literal ha => exact (ha.isConstant pins).mono fun l constant => constant.over
  | add _ _ iha ihb => exact iha.arith ihb fun la lb overA overB => overA.add overB
  | sub _ _ iha ihb => exact iha.arith ihb fun la lb overA overB => overA.sub overB
  | scaledBy ha _ ihb =>
    exact (ha.isConstant pins).arith ihb fun la lb constant overB =>
      constant.over.mul overB (.inl constant)
  | times _ hb iha =>
    exact iha.arith (hb.isConstant pins) fun la lb overA constant =>
      overA.mul constant.over (.inr constant)
  | negate _ ih => exact ih.negate fun l => .scale (-1)
  | toReal _ ih => exact ih.toReal

theorem Elementary.linear {e : Expr .bool} (he : e.Elementary) (pins : Pins) :
    ∀ d ∈ e.differences pins, d.isSome = true := by
  induction he with
  | var | const => simp [Expr.differences]
  | compare c ha hb => exact (ha.over pins).compare c (hb.over pins)
  | not _ ih =>
    rw [Expr.differences]
    exact ih
  | and _ _ iha ihb | or _ _ iha ihb | implies _ _ iha ihb | iff _ _ iha ihb =>
    rw [Expr.differences]
    exact List.forall_mem_append.2 ⟨iha, ihb⟩

end Expr

/-- What is said of elementary assertions is right: they are satisfied where they are said to be, or
nothing satisfies them. -/
theorem decideAssertions_elementary (elementary : ∀ e ∈ as, e.Elementary) :
    (∃ v, decideAssertions as = .satisfied v ∧ ∀ e ∈ as, e.eval v = true) ∨
      (decideAssertions as = .unsatisfiable ∧ ∀ v : Valuation, ∃ e ∈ as, e.eval v = false) := by
  have linear : ∀ d ∈ as.flatMap (Expr.differences (pinsOf as)), d.isSome = true := fun d mem => by
    obtain ⟨e, inAs, inE⟩ := List.mem_flatMap.1 mem
    exact (elementary e inAs).linear (pinsOf as) d inE
  cases decided : decideAssertions as with
  | satisfied v => exact .inl ⟨v, rfl, decideAssertions_sound decided⟩
  | unsatisfiable => exact .inr ⟨rfl, decideAssertions_unsatisfiable decided⟩
  | undecided => exact absurd decided (decideAssertions_decided linear)

/-- Where some values make elementary assertions true, such values are found. -/
theorem exists_satisfied (elementary : ∀ e ∈ as, e.Elementary) {v : Valuation}
    (holds : ∀ e ∈ as, e.eval v = true) :
    ∃ found, decideAssertions as = .satisfied found ∧ ∀ e ∈ as, e.eval found = true := by
  rcases decideAssertions_elementary elementary with satisfied | ⟨-, fails⟩
  · exact satisfied
  · obtain ⟨e, mem, isFalse⟩ := fails v
    rw [holds e mem] at isFalse
    cases isFalse

end RecordAudit
