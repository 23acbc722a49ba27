import RecordAudit.Check.Basic
import RecordAudit.Proofs.Check.Conclusion
import RecordAudit.Proofs.Solver.Pinned
import RecordAudit.Solver.Engine

/-!
# Solvers that are right

What is assumed of a solver, of one response at a time: that it is sound, that it decides assertions
which set every variable equal to a value, and that it decides elementary assertions. Nothing is
assumed about the values that it chooses. A decider is a solver whose responses depend on the
assertions that are live and on the time that it has.

## Main definitions

* `Expr.NonzeroDivisors`: no division by zero takes place.
* `Expr.Elementary`: Boolean combinations of comparisons in one variable each.
* `IsModel`: entries are those of a model of assertions.
* `Response.Sound`: what a response says is true.
* `Decider.judge`: a decider as the judge of a constraint's assertions.
-/

namespace RecordAudit

variable {es : List (Expr .bool)} {entries : List ModelEntry} {v w : Valuation} {r : Response}

namespace Expr

/-! ## Divisors -/

/-- No divisor is zero. A quotient by zero may be anything, so that a solver can choose it. -/
def NonzeroDivisors (v : Valuation) : {s : VariableSort} → Expr s → Prop
  | _, .var .. | _, .const _ => True
  | .numeric n, .arith op a b =>
    a.NonzeroDivisors v ∧ b.NonzeroDivisors v ∧ (op = .div → b.eval v ≠ n.ofInt 0)
  | _, .remainder a b => a.NonzeroDivisors v ∧ b.NonzeroDivisors v ∧ b.eval v ≠ (0 : Int)
  | _, .negate a => a.NonzeroDivisors v
  | _, .toReal a | _, .not a => a.NonzeroDivisors v
  | _, .ite condition a b => condition.NonzeroDivisors v ∧ a.NonzeroDivisors v ∧ b.NonzeroDivisors v
  | _, .compare _ a b => a.NonzeroDivisors v ∧ b.NonzeroDivisors v
  | _, .concat a b | _, .compareText _ a b => a.NonzeroDivisors v ∧ b.NonzeroDivisors v
  | _, .iff a b | _, .and a b | _, .or a b | _, .implies a b =>
    a.NonzeroDivisors v ∧ b.NonzeroDivisors v

theorem nonzeroDivisors_equals (s : VariableSort) (name : String) (value : s.Carrier) :
    (s.equals name value).NonzeroDivisors v := by
  cases s <;> exact ⟨trivial, trivial⟩

/-! ## Comparisons in one variable -/

/-- A number without variables, in which nothing is divided by zero. -/
inductive Literal : {n : Numeric} → Expr (.numeric n) → Prop
  | const {n : Numeric} (value : n.Carrier) : Literal (n := n) (.const value)
  | toReal {a : Expr .int} : a.Literal → Literal (.toReal a)
  | negate {n : Numeric} {a : Expr (.numeric n)} : a.Literal → Literal (.negate a)
  | arith {n : Numeric} (op : ArithOp) {a b : Expr (.numeric n)} : a.Literal → b.Literal →
    (op = .div → ∀ v, b.eval v ≠ n.ofInt 0) → Literal (.arith op a b)

/-- A multiple of one variable, moved by a number: sums, differences and multiples of the variable
and of numbers without variables. -/
inductive Linear (n : Numeric) (name : String) : {m : Numeric} → Expr (.numeric m) → Prop
  | var : Linear n name (.var (.numeric n) name)
  | literal {m : Numeric} {a : Expr (.numeric m)} : a.Literal → Linear n name a
  | add {m : Numeric} {a b : Expr (.numeric m)} : a.Linear n name → b.Linear n name →
      Linear n name (.arith .add a b)
  | sub {m : Numeric} {a b : Expr (.numeric m)} : a.Linear n name → b.Linear n name →
      Linear n name (.arith .sub a b)
  | scaledBy {m : Numeric} {a b : Expr (.numeric m)} : a.Literal → b.Linear n name →
      Linear n name (.arith .mul a b)
  | times {m : Numeric} {a b : Expr (.numeric m)} : a.Linear n name → b.Literal →
      Linear n name (.arith .mul a b)
  | negate {m : Numeric} {a : Expr (.numeric m)} : a.Linear n name → Linear n name (.negate a)
  | toReal {a : Expr .int} : a.Linear n name → Linear n name (.toReal a)

/-- A Boolean combination of variables for truth values, of truth values, and of comparisons in one
number variable each. -/
inductive Elementary : Expr .bool → Prop
  | var (name : String) : Elementary (.var .bool name)
  | const (value : Bool) : Elementary (.const (s := .bool) value)
  | compare (c : Comparison) {n m : Numeric} {name : String} {a b : Expr (.numeric m)} :
    a.Linear n name → b.Linear n name → Elementary (.compare c a b)
  | not {a : Expr .bool} : a.Elementary → Elementary (.not a)
  | and {a b : Expr .bool} : a.Elementary → b.Elementary → Elementary (.and a b)
  | or {a b : Expr .bool} : a.Elementary → b.Elementary → Elementary (.or a b)
  | implies {a b : Expr .bool} : a.Elementary → b.Elementary → Elementary (.implies a b)
  | iff {a b : Expr .bool} : a.Elementary → b.Elementary → Elementary (.iff a b)

theorem Elementary.equals {s : VariableSort} (notText : s ≠ .text) (name : String)
    (value : s.Carrier) :
    (s.equals name value).Elementary := by
  cases s with
  | bool => exact .iff (.var name) (.const value)
  | numeric n => exact .compare .eq .var (.literal (.const value))
  | text => exact absurd rfl notText

theorem Literal.nonzeroDivisors {n : Numeric} {a : Expr (.numeric n)} (ha : a.Literal) :
    a.NonzeroDivisors v := by
  induction ha with
  | const => trivial
  | toReal _ ih | negate _ ih => exact ih
  | arith op _ _ nonzero iha ihb => exact ⟨iha, ihb, fun division => nonzero division v⟩

theorem Linear.nonzeroDivisors {n m : Numeric} {name : String} {a : Expr (.numeric m)}
    (ha : a.Linear n name) :
    a.NonzeroDivisors v := by
  induction ha with
  | var => trivial
  | literal ha => exact ha.nonzeroDivisors
  | add _ _ iha ihb | sub _ _ iha ihb => exact ⟨iha, ihb, nofun⟩
  | scaledBy ha _ ihb => exact ⟨ha.nonzeroDivisors, ihb, nofun⟩
  | times _ hb iha => exact ⟨iha, hb.nonzeroDivisors, nofun⟩
  | negate _ ih | toReal _ ih => exact ih

theorem Elementary.nonzeroDivisors {e : Expr .bool} (he : e.Elementary) : e.NonzeroDivisors v := by
  induction he with
  | var | const => trivial
  | compare c ha hb => exact ⟨ha.nonzeroDivisors, hb.nonzeroDivisors⟩
  | not _ ih => exact ih
  | and _ _ iha ihb | or _ _ iha ihb | implies _ _ iha ihb | iff _ _ iha ihb => exact ⟨iha, ihb⟩

theorem Literal.vars_eq_nil {n : Numeric} {a : Expr (.numeric n)} (ha : a.Literal) :
    a.vars = [] := by
  induction ha with
  | const => rfl
  | toReal _ ih | negate _ ih => exact ih
  | arith op _ _ _ iha ihb => rw [vars, iha, ihb, List.append_nil]

theorem Linear.vars_subset {n m : Numeric} {name : String} {a : Expr (.numeric m)}
    (ha : a.Linear n name) :
    ∀ x ∈ a.vars, x = (.numeric n, name) := by
  induction ha with
  | var => exact fun x => List.mem_singleton.1
  | literal ha => simp [ha.vars_eq_nil]
  | add _ _ iha ihb | sub _ _ iha ihb => exact List.forall_mem_append.2 ⟨iha, ihb⟩
  | scaledBy ha _ ihb => simpa [vars, ha.vars_eq_nil] using ihb
  | times _ hb iha => simpa [vars, hb.vars_eq_nil] using iha
  | negate _ ih | toReal _ ih => exact ih

theorem Elementary.sort_ne_text {e : Expr .bool} (he : e.Elementary) :
    ∀ x ∈ e.vars, x.1 ≠ .text := by
  induction he with
  | var name => exact fun x mem => by rw [List.mem_singleton.1 mem]; nofun
  | const => nofun
  | compare c ha hb =>
    refine List.forall_mem_append.2 ⟨fun x mem => ?_, fun x mem => ?_⟩
    · rw [ha.vars_subset x mem]
      nofun
    · rw [hb.vars_subset x mem]
      nofun
  | not _ ih => exact ih
  | and _ _ iha ihb | or _ _ iha ihb | implies _ _ iha ihb | iff _ _ iha ihb =>
    exact List.forall_mem_append.2 ⟨iha, ihb⟩

end Expr

/-! ## Models of assertions -/

/-- Every variable that has an entry has the value of the entry. -/
def Valuation.Agrees (v : Valuation) (entries : List ModelEntry) : Prop :=
  ∀ s name x, .value s name x ∈ entries → v s name = x

/-- The value of a variable is not to be known from the entries: it is a text, or it is shown by a
text. -/
def HidesValue (entries : List ModelEntry) (x : VariableSort × String) : Prop :=
  x.1 = .text ∨ (∃ text, .other x.2 text ∈ entries) ∧ ∀ value, .value x.1 x.2 value ∉ entries

/-- Entries are those of a model of assertions. -/
structure IsModel (entries : List ModelEntry) (es : List (Expr .bool)) : Prop where
  /-- Only variables that occur in the assertions have values. -/
  occurs : ∀ s name x, .value s name x ∈ entries → ∃ e ∈ es, (s, name) ∈ e.vars
  /-- No variable has two values. -/
  consistent : ∃ v : Valuation, v.Agrees entries
  /-- A variable that is set equal to a value has this value. -/
  pinned : ∀ (s : VariableSort) name (x : s.Carrier), s ≠ .text → s.equals name x ∈ es →
    .value s name x ∈ entries
  /-- Whatever values other variables have, the assertions are true. -/
  holds : ∀ e ∈ es, (∀ x ∈ e.vars, ¬HidesValue entries x) → ∀ v : Valuation, v.Agrees entries →
    e.NonzeroDivisors v → e.eval v = true

/-- All entries are values of variables that can be known. -/
def IsPlain (entries : List ModelEntry) : Prop :=
  ∀ entry ∈ entries, ∃ (s : VariableSort) (name : String) (x : s.Carrier), s ≠ .text ∧
    entry = .value s name x

/-! ## Responses -/

namespace Response

/-- What the response says about assertions is true. -/
structure Sound (r : Response) (es : List (Expr .bool)) : Prop where
  sat : r.holds = some true → ∃ entries, r.model = some entries ∧ IsModel entries es
  unsat : r.holds = some false → r.model = none ∧ ∀ v : Valuation, ∃ e ∈ es, e.eval v = false

/-- Elementary assertions are decided, and the model consists of values. -/
def DecidesElementary (r : Response) (es : List (Expr .bool)) : Prop :=
  (∀ e ∈ es, e.Elementary) → r.holds ≠ none ∧ ∀ entries, r.model = some entries → IsPlain entries

theorem Sound.isModel (sound : r.Sound es) (known : r.verdict ≠ .unknown)
    (shown : r.model = some entries) :
    r.holds = some true ∧ IsModel entries es := by
  match said : r.holds with
  | some true =>
    obtain ⟨entries', shown', isModel⟩ := sound.sat said
    exact ⟨rfl, Option.some.inj (shown.symm.trans shown') ▸ isModel⟩
  | some false => cases (sound.unsat said).1.symm.trans shown
  | none => exact absurd (by rw [verdict, said]) known

theorem answer_of_unknown (unknown : r.verdict = .unknown) :
    r.answer = .ok ⟨.unknown, none, some r.reason⟩ := by
  unfold answer
  rw [unknown]
  rfl

theorem answer_of_known (known : r.verdict ≠ .unknown) :
    r.answer = (fun model => ⟨r.verdict, model, none⟩) <$> Model.ofEntries? r.model := by
  unfold answer
  rw [if_pos (bne_iff_ne.2 known), if_neg (by simpa using known)]
  cases Model.ofEntries? r.model <;> rfl

theorem verdict_of_answer {answer : Answer} (answered : r.answer = .ok answer) :
    answer.verdict = r.verdict := by
  by_cases unknown : r.verdict = .unknown
  · rw [answer_of_unknown unknown] at answered
    cases answered
    exact unknown.symm
  · rw [answer_of_known unknown] at answered
    obtain ⟨model, -, rfl⟩ := except_map_eq_ok_iff.1 answered
    rfl

theorem answer_of_sat (said : r.holds = some true) (shown : r.model = some entries) :
    r.answer = (fun model => ⟨.satisfiable, some model, none⟩) <$> Model.ofEntries entries := by
  have sat : r.verdict = .satisfiable := by rw [verdict, said]
  rw [answer_of_known (by simp [sat]), sat, shown, Model.ofEntries?]
  cases Model.ofEntries entries <;> rfl

theorem answer_of_unsat (said : r.holds = some false) (hidden : r.model = none) :
    r.answer = .ok ⟨.unsatisfiable, none, none⟩ := by
  have unsat : r.verdict = .unsatisfiable := by rw [verdict, said]
  rw [answer_of_known (by simp [unsat]), unsat, hidden]
  rfl

theorem holds_of_satisfiable (sat : r.verdict = .satisfiable) : r.holds = some true := by
  unfold verdict at sat
  split at sat
  · assumption
  all_goals cases sat

theorem exists_entries_of_answer {answer : Answer} {model : Model}
    (answered : r.answer = .ok answer) (reported : answer.model = some model) :
    r.verdict ≠ .unknown ∧ ∃ entries, r.model = some entries ∧
      Model.ofEntries entries = .ok model := by
  by_cases unknown : r.verdict = .unknown
  · rw [answer_of_unknown unknown] at answered
    cases answered
    cases reported
  · rw [answer_of_known unknown] at answered
    obtain ⟨model?, made?, rfl⟩ := except_map_eq_ok_iff.1 answered
    cases reported
    cases shown : r.model with
    | none =>
      rw [shown] at made?
      cases made?
    | some entries =>
      rw [shown] at made?
      obtain ⟨_, made, same⟩ := except_map_eq_ok_iff.1 made?
      exact ⟨unknown, entries, rfl, Option.some.inj same ▸ made⟩

/-- An answer with values comes from a response with entries that can be reported. -/
theorem answer_satisfiable_iff {model : Model} :
    (∃ answer, r.answer = .ok answer ∧ answer.verdict = .satisfiable ∧ answer.model = some model) ↔
      r.holds = some true ∧ ∃ entries, r.model = some entries ∧
        Model.ofEntries entries = .ok model := by
  constructor
  · rintro ⟨answer, answered, sat, reported⟩
    exact ⟨holds_of_satisfiable ((verdict_of_answer answered).symm.trans sat),
      (exists_entries_of_answer answered reported).2⟩
  · rintro ⟨said, entries, shown, made⟩
    exact ⟨_, by rw [answer_of_sat said shown, made]; rfl, rfl, rfl⟩

theorem Sound.exists_model (sound : r.Sound es) {answer : Answer} (answered : r.answer = .ok answer)
    (sat : answer.verdict = .satisfiable) : ∃ model, answer = ⟨.satisfiable, some model, none⟩ := by
  have said := holds_of_satisfiable ((verdict_of_answer answered).symm.trans sat)
  obtain ⟨entries, shown, -⟩ := sound.sat said
  rw [answer_of_sat said shown] at answered
  obtain ⟨model, -, rfl⟩ := except_map_eq_ok_iff.1 answered
  exact ⟨model, rfl⟩

/-- Whether the model that belongs to the response cannot be reported. -/
def unreportable (r : Response) : Bool :=
  r.verdict != .unknown && r.model.any fun entries => entries.any fun entry => !entry.reported.isOk

theorem isOk_answer (r : Response) : r.answer.isOk = !r.unreportable := by
  have reported : ∀ entries, (Model.ofEntries entries).isOk = !entries.any fun entry =>
    !entry.reported.isOk := by
    intro entries
    rw [Bool.eq_iff_iff, isOk_iff, Model.exists_ofEntries_iff]
    simp [isOk_iff]
  unfold unreportable
  by_cases unknown : r.verdict = .unknown
  · rw [answer_of_unknown unknown, unknown]
    rfl
  · rw [answer_of_known unknown, bne_iff_ne.2 unknown, Bool.true_and]
    cases r.model with
    | none => rfl
    | some entries =>
      rw [Option.any_some, ← reported, Model.ofEntries?]
      cases Model.ofEntries entries <;> rfl

end Response

/-! ## Assertions that set every variable equal to a value -/

/-- Every variable of the assertions is set equal to its value. -/
def Valuation.PinnedBy (v : Valuation) (es : List (Expr .bool)) : Prop :=
  ∀ e ∈ es, ∀ x ∈ e.vars, x.1 ≠ .text ∧ x.1.equals x.2 (v x.1 x.2) ∈ es

section Pinned

variable (pinned : v.PinnedBy es)
include pinned

theorem IsModel.value_of_pinned (isModel : IsModel entries es) {s : VariableSort} {name : String}
    {x : s.Carrier} :
    .value s name x ∈ entries ↔ (∃ e ∈ es, (s, name) ∈ e.vars) ∧ v s name = x := by
  obtain ⟨w, agrees⟩ := isModel.consistent
  constructor
  · intro mem
    obtain ⟨e, inEs, occurs⟩ := isModel.occurs s name x mem
    obtain ⟨notText, bound⟩ := pinned e inEs _ occurs
    have same := agrees s name _ (isModel.pinned s name _ notText bound)
    exact ⟨⟨e, inEs, occurs⟩, same.symm.trans (agrees s name x mem)⟩
  · rintro ⟨⟨e, inEs, occurs⟩, rfl⟩
    obtain ⟨notText, bound⟩ := pinned e inEs _ occurs
    exact isModel.pinned s name _ notText bound

theorem IsModel.holds_of_pinned (isModel : IsModel entries es)
    (nonzero : ∀ e ∈ es, e.NonzeroDivisors v) :
    ∀ e ∈ es, e.eval v = true := by
  intro e mem
  refine isModel.holds e mem ?_ v (fun s name x there =>
    ((isModel.value_of_pinned pinned).1 there).2) (nonzero e mem)
  rintro x occurs (text | ⟨-, absent⟩)
  · exact (pinned e mem x occurs).1 text
  · exact absent _ ((isModel.value_of_pinned pinned).2 ⟨⟨e, mem, occurs⟩, rfl⟩)

/-- A sound response that says something says whether the assertions are true with these values. -/
theorem Response.Sound.verdict_pinned (sound : r.Sound es) (decided : r.holds ≠ none)
    (nonzero : ∀ e ∈ es, e.NonzeroDivisors v) :
    r.verdict = if es.all (·.eval v) then .satisfiable else .unsatisfiable := by
  unfold verdict
  match said : r.holds with
  | none => exact absurd said decided
  | some true =>
    obtain ⟨entries, -, isModel⟩ := sound.sat said
    rw [if_pos (List.all_eq_true.2 (isModel.holds_of_pinned pinned nonzero))]
  | some false =>
    obtain ⟨e, mem, isFalse⟩ := (sound.unsat said).2 v
    rw [if_neg]
    intro all
    rw [List.all_eq_true.1 all e mem] at isFalse
    cases isFalse

theorem Response.Sound.reportable_pinned (sound : r.Sound es)
    (reported : ∀ e ∈ es, ∀ x ∈ e.vars, ∃ value, x.1.reported (v x.1 x.2) = .ok value) :
    r.unreportable = false := by
  unfold unreportable
  match said : r.holds with
  | none => simp [verdict, said]
  | some false => simp [(sound.unsat said).1]
  | some true =>
    obtain ⟨entries, shown, isModel⟩ := sound.sat said
    have all : ∀ entry ∈ entries, entry.reported.isOk = true := by
      intro entry mem
      cases entry with
      | other name text => rfl
      | value s name x =>
        obtain ⟨⟨e, inEs, occurs⟩, rfl⟩ := (isModel.value_of_pinned pinned).1 mem
        exact isOk_iff.2 (reported e inEs _ occurs)
    simpa [shown] using fun _ => all

end Pinned

/-! ## Elementary assertions -/

/-- The model of elementary assertions gives values that make them true. -/
theorem IsModel.exists_valuation (isModel : IsModel entries es) (plain : IsPlain entries)
    (elementary : ∀ e ∈ es, e.Elementary) :
    ∃ v : Valuation, (∀ e ∈ es, e.eval v = true) ∧ ∀ entry ∈ entries, ∃ s name, entry =
      .value s name (v s name) ∧ ∃ e ∈ es, (s, name) ∈ e.vars := by
  obtain ⟨v, agrees⟩ := isModel.consistent
  refine ⟨v, fun e mem => ?_, fun entry mem => ?_⟩
  · refine isModel.holds e mem (fun x occurs hidden => ?_) v agrees
      (elementary e mem).nonzeroDivisors
    rcases hidden with text | ⟨⟨text, shown⟩, -⟩
    · exact (elementary e mem).sort_ne_text x occurs text
    · obtain ⟨s, name, value, -, same⟩ := plain _ shown
      cases same
  · obtain ⟨s, name, x, -, rfl⟩ := plain entry mem
    exact ⟨s, name, by rw [agrees s name x mem], isModel.occurs s name x mem⟩

/-- The answer to elementary assertions says whether they can all be true, and its model reports
values that make them so. -/
theorem Response.Sound.answer_elementary (sound : r.Sound es) (decides : r.DecidesElementary es)
    (elementary : ∀ e ∈ es, e.Elementary) {answer : Answer} (returned : r.answer = .ok answer) :
    (answer.verdict = .satisfiable ∧ ∃ v model, (∀ e ∈ es, e.eval v = true) ∧
        answer.model = some model ∧ ∀ name value, model.get? name = some value →
          ∃ s, (∃ e ∈ es, (s, name) ∈ e.vars) ∧ s.reported (v s name) = .ok value) ∨
      (answer.verdict = .unsatisfiable ∧ answer.model = none ∧
        ∀ v : Valuation, ∃ e ∈ es, e.eval v = false) := by
  obtain ⟨decided, plain⟩ := decides elementary
  match said : r.holds with
  | none => exact absurd said decided
  | some true =>
    obtain ⟨entries, shown, isModel⟩ := sound.sat said
    obtain ⟨v, holds, known⟩ := isModel.exists_valuation (plain entries shown) elementary
    rw [r.answer_of_sat said shown] at returned
    obtain ⟨model, made, rfl⟩ := except_map_eq_ok_iff.1 returned
    refine .inl ⟨rfl, v, model, holds, rfl, fun name value there => ?_⟩
    obtain ⟨entry, mem, rfl, reported⟩ := Model.exists_entry_of_get? made there
    obtain ⟨s, name, rfl, occurs⟩ := known entry mem
    exact ⟨s, occurs, reported⟩
  | some false =>
    obtain ⟨hidden, fails⟩ := sound.unsat said
    rw [r.answer_of_unsat said hidden] at returned
    cases returned
    exact .inr ⟨rfl, rfl, fails⟩

/-- There is no answer to elementary assertions only when they can all be true and a value of the
model cannot be reported. -/
theorem Response.Sound.error_elementary (sound : r.Sound es) (decides : r.DecidesElementary es)
    (elementary : ∀ e ∈ es, e.Elementary) {fault : Fault} (refused : r.answer = .error fault) :
    ∃ v : Valuation, (∀ e ∈ es, e.eval v = true) ∧
      ∃ e ∈ es, ∃ s name, (s, name) ∈ e.vars ∧ ∀ value, s.reported (v s name) ≠ .ok value := by
  obtain ⟨decided, plain⟩ := decides elementary
  match said : r.holds with
  | none => exact absurd said decided
  | some true =>
    obtain ⟨entries, shown, isModel⟩ := sound.sat said
    obtain ⟨v, holds, known⟩ := isModel.exists_valuation (plain entries shown) elementary
    refine ⟨v, holds, ?_⟩
    by_contra! all
    have reported : ∃ model, Model.ofEntries entries =
        .ok model := Model.exists_ofEntries_iff.2 fun entry mem => by
      obtain ⟨s, name, rfl, e, inEs, occurs⟩ := known entry mem
      exact all e inEs s name occurs
    obtain ⟨model, made⟩ := reported
    rw [r.answer_of_sat said shown, made] at refused
    cases refused
  | some false =>
    rw [r.answer_of_unsat said (sound.unsat said).1] at refused
    cases refused

/-! ## Deciders -/

/-- The expressions that an operand asserts, up to the first item that is no assertion. -/
def assertedBy (operand : Operand) : List (Expr .bool) := go operand.items
where
  go : List Operand → List (Expr .bool)
    | [] => []
    | o :: rest => match o.toBool with
      | .ok e => e :: go rest
      | .error _ => []

/-- What a solver responds within so many milliseconds to assertions. -/
abbrev Decider := Int → List (Expr .bool) → Response

namespace Decider

variable (d : Decider)

/-- What the solver's answers say is true. -/
def Sound : Prop := ∀ milliseconds es, (d milliseconds es).Sound es

/-- Assertions that set every variable equal to a value are decided, unless something is divided by
zero. -/
def DecidesPinned : Prop :=
  ∀ milliseconds es (v : Valuation), v.PinnedBy es → (∀ e ∈ es, e.NonzeroDivisors v) →
    (d milliseconds es).holds ≠ none

/-- Elementary assertions are decided. -/
def DecidesElementary : Prop := ∀ milliseconds es, (d milliseconds es).DecidesElementary es

/-- The answer on assertions. -/
def answerOn (timeout : Timeout) (es : List (Expr .bool)) : Except Fault Answer :=
  (d timeout.milliseconds es).answer

/-- What the solver says about assertions. -/
def judge : Judge where
  takes operand := operand.items.forM fun o => o.toBool.map fun _ => ()
  answers timeout operands := d.answerOn timeout (operands.flatMap assertedBy)

variable {d}

/-- A variable that only has to be equal to a value is given the value. If this cannot be reported,
there is no answer. -/
theorem unreportable_equals (sound : d.Sound) (decides : d.DecidesPinned) {s : VariableSort}
    (notText : s ≠ .text) (name : String) {x : s.Carrier} (unreported : (s.reported x).isOk = false)
    (milliseconds : Int) :
    (d milliseconds [s.equals name x]).unreportable = true := by
  let v := Valuation.zero.set s name x
  have value : v s name = x := Valuation.set_self _ _ _ _
  have pinned : v.PinnedBy [s.equals name x] := by
    intro e mem y occurs
    rw [List.mem_singleton.1 mem, s.vars_equals] at occurs
    rw [List.mem_singleton.1 occurs]
    exact ⟨notText, by simp [value]⟩
  have nonzero : ∀ e ∈ [s.equals name x], e.NonzeroDivisors v := by
    simpa using Expr.nonzeroDivisors_equals s name x
  have holds : (s.equals name x).eval v = true := value ▸ Expr.eval_equals_self notText v name
  have right := sound milliseconds [s.equals name x]
  have verdict := right.verdict_pinned pinned (decides _ _ _ pinned nonzero) nonzero
  have sat : (d milliseconds [s.equals name x]).holds = some true := by
    match said : (d milliseconds [s.equals name x]).holds with
    | some true => rfl
    | some false | none => simp [Response.verdict, said, holds] at verdict
  obtain ⟨entries, shown, isModel⟩ := right.sat sat
  have there := isModel.pinned s name x notText (List.mem_singleton.2 rfl)
  rw [Response.unreportable, verdict, shown, Option.any_some, Bool.and_eq_true, List.any_eq_true]
  exact ⟨by simp [holds], _, there, by simp [ModelEntry.reported, unreported]⟩

end Decider

end RecordAudit
