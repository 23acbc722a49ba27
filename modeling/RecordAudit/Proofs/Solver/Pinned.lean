import Mathlib.Tactic.Common
import RecordAudit.Check.Basic
import RecordAudit.Solver.Search

/-!
# Assertions that give every variable a value

When every variable is set equal to a value, a decision is an evaluation: assertions are satisfied
when they are all true under these values, and unsatisfiable otherwise.
-/

namespace RecordAudit

variable {as : List (Expr .bool)} {v w : Valuation} {s : VariableSort} {name : String}

/-! ## Pins -/

theorem Numeric.order_eq_iff {n : Numeric} {a b : n.Carrier} : n.order a b = .eq ↔ a = b := by
  cases n with
  | int => exact compareOfLessAndEq_eq_eq (α := Int) Int.le_refl Int.not_le
  | real => exact compareOfLessAndEq_eq_eq (α := Rat) (fun _ => Rat.le_refl) Rat.not_le

theorem Numeric.compare_eq_iff {n : Numeric} {a b : n.Carrier} :
    n.compare .eq a b = true ↔ a = b := by
  rw [Numeric.compare, Comparison.allows, beq_iff_eq, order_eq_iff]

theorem VariableSort.vars_equals (s : VariableSort) (name : String) (value : s.Carrier) :
    (s.equals name value).vars = [(s, name)] := by
  cases s <;> rfl

namespace Expr

theorem pin?_sound {e : Expr .bool} {value : s.Carrier} (h : e.pin? = some ⟨s, name, value⟩)
    (holds : e.eval v = true) : v s name = value := by
  unfold pin? at h
  split at h
  · cases h
    exact Numeric.compare_eq_iff.1 holds
  · cases h
    exact (Numeric.compare_eq_iff.1 holds).symm
  · cases h
    exact beq_iff_eq.1 holds
  · cases h
    exact (beq_iff_eq.1 holds).symm
  · cases h

theorem pin?_equals (notText : s ≠ .text) (name : String) (value : s.Carrier) :
    (s.equals name value).pin? = some ⟨s, name, value⟩ := by
  cases s with
  | bool | numeric n => rfl
  | text => exact absurd rfl notText

theorem eval_equals_self (notText : s ≠ .text) (v : Valuation) (name : String) :
    (s.equals name (v s name)).eval v = true := by
  cases s with
  | bool => exact beq_self_eq_true _
  | numeric n => exact Numeric.compare_eq_iff.2 rfl
  | text => exact absurd rfl notText

end Expr

/-- Values that assertions pin are those of every valuation that makes the assertions true. -/
theorem pinsOf_sound (holds : ∀ e ∈ as, e.eval v = true) {value : s.Carrier}
    (h : pinsOf as s name = some value) : v s name = value := by
  obtain ⟨e, mem, pinned⟩ := List.exists_of_findSome?_eq_some h
  split at pinned
  · next t other value' pin =>
    split at pinned
    · next same =>
      subst same
      split at pinned
      · next same =>
        subst same
        obtain rfl := Option.some.inj pinned
        exact Expr.pin?_sound pin (holds e mem)
      · cases pinned
    · cases pinned
  · cases pinned

theorem isSome_pinsOf {e : Expr .bool} (mem : e ∈ as) {value : s.Carrier}
    (pin : e.pin? = some ⟨s, name, value⟩) : (pinsOf as s name).isSome = true := by
  refine List.findSome?_isSome_iff.2 ⟨e, mem, ?_⟩
  rw [pin]
  simp

/-! ## Searches -/

theorem search_sound {goals : List Goal} {ds : List Domain} {bound : List (VariableSort × String)}
    (h : search goals ds bound v = some w) : ∀ g ∈ goals, g.holds w = true := by
  induction ds generalizing bound v with
  | nil =>
    rw [search] at h
    split at h
    · next all =>
      obtain rfl := Option.some.inj h
      exact List.all_eq_true.1 all
    · cases h
  | cons d rest ih =>
    rw [search] at h
    obtain ⟨value, -, found⟩ := List.exists_of_findSome?_eq_some h
    dsimp only at found
    split at found
    · exact ih found
    · cases found

theorem Valuation.set_agrees {bound : List (VariableSort × String)}
    (agree : ∀ x ∈ bound, v x.1 x.2 = w x.1 x.2) :
    ∀ x ∈ (s, name) :: bound, v.set s name (w s name) x.1 x.2 = w x.1 x.2 := by
  intro x mem
  by_cases same : (s, name) = x
  · rw [← same]
    exact Valuation.set_self v s name _
  · rw [Valuation.set_other same]
    exact agree x ((List.mem_cons.1 mem).resolve_left (Ne.symm same))

/-- When some values to try make the goals true, the search finds such values. -/
theorem search_isSome {goals : List Goal} {ds : List Domain} {bound : List (VariableSort × String)}
    (holds : ∀ g ∈ goals, g.holds w = true)
    (occurs : ∀ g ∈ goals, ∀ x ∈ g.assertion.vars, x ∈ g.vars)
    (covered : ∀ g ∈ goals, ∀ x ∈ g.vars, x ∈ bound ∨ ∃ d ∈ ds, (d.sort, d.name) = x)
    (among : ∀ d ∈ ds, w d.sort d.name ∈ d.values) (agree : ∀ x ∈ bound, v x.1 x.2 = w x.1 x.2) :
    (search goals ds bound v).isSome = true := by
  induction ds generalizing bound v with
  | nil =>
    have all : goals.all (·.holds v) = true := List.all_eq_true.2 fun g mem => by
      rw [← holds g mem]
      refine Expr.eval_congr g.assertion fun x occ => agree x ?_
      simpa using covered g mem x (occurs g mem x occ)
    rw [search, if_pos all]
    rfl
  | cons d rest ih =>
    have agree' : ∀ x ∈ (d.sort, d.name) :: bound,
        v.set d.sort d.name (w d.sort d.name) x.1 x.2 = w x.1 x.2 := Valuation.set_agrees agree
    have opened : goals.all (·.isOpen ((d.sort, d.name) :: bound)
        (v.set d.sort d.name (w d.sort d.name))) = true := by
      refine List.all_eq_true.2 fun g mem => ?_
      rw [Goal.isOpen, Bool.or_eq_true, Bool.not_eq_true']
      by_cases known : g.vars.all ((d.sort, d.name) :: bound).contains = true
      · refine .inr ?_
        rw [← holds g mem]
        refine Expr.eval_congr g.assertion fun x occ => agree' x ?_
        exact List.contains_iff_mem.1 (List.all_eq_true.1 known x (occurs g mem x occ))
      · exact .inl (Bool.eq_false_iff.2 known)
    have covered' : ∀ g ∈ goals, ∀ x ∈ g.vars,
        x ∈ (d.sort, d.name) :: bound ∨ ∃ d ∈ rest, (d.sort, d.name) = x := by
      intro g mem x occ
      rcases covered g mem x occ with known | ⟨d', mem', same⟩
      · exact .inl (List.mem_cons_of_mem _ known)
      · rcases List.mem_cons.1 mem' with rfl | mem'
        · exact .inl (by simp [same])
        · exact .inr ⟨d', mem', same⟩
    rw [search, List.findSome?_isSome_iff]
    refine ⟨w d.sort d.name, among d (by simp), ?_⟩
    dsimp only
    rw [if_pos opened]
    exact ih covered' (fun d' mem => among d' (by simp [mem])) agree'

/-- When there is one value to try for every variable, what a search finds has these values. -/
theorem search_agrees {goals : List Goal} {ds : List Domain} {bound : List (VariableSort × String)}
    {v' : Valuation} (single : ∀ d ∈ ds, d.values = [w d.sort d.name])
    (agree : ∀ x ∈ bound, v x.1 x.2 = w x.1 x.2) (found : search goals ds bound v = some v') :
    (∀ x ∈ bound, v' x.1 x.2 = w x.1 x.2) ∧ ∀ d ∈ ds, v' d.sort d.name = w d.sort d.name := by
  induction ds generalizing bound v with
  | nil =>
    rw [search] at found
    split at found
    · obtain rfl := Option.some.inj found
      exact ⟨agree, by simp⟩
    · cases found
  | cons d rest ih =>
    rw [search, single d (by simp), List.findSome?_singleton] at found
    dsimp only at found
    split at found
    · obtain ⟨ofBound, ofRest⟩ :=
        ih (fun d' mem => single d' (by simp [mem])) (Valuation.set_agrees agree) found
      refine ⟨fun x mem => ofBound x (List.mem_cons_of_mem _ mem), fun d' mem => ?_⟩
      rcases List.mem_cons.1 mem with rfl | mem
      · exact ofBound (d'.sort, d'.name) (by simp)
      · exact ofRest d' mem
    · cases found

/-- Every variable that has a domain gets a value from one, and no other variable changes. -/
theorem search_among {goals : List Goal} {ds : List Domain} {bound : List (VariableSort × String)}
    (found : search goals ds bound v = some w) (x : VariableSort × String) :
    (w x.1 x.2 = v x.1 x.2 ∧ ∀ d ∈ ds, (d.sort, d.name) ≠ x) ∨
      ∃ d ∈ ds, (d.sort, d.name) = x ∧ w d.sort d.name ∈ d.values := by
  induction ds generalizing bound v with
  | nil =>
    rw [search] at found
    split at found
    · obtain rfl := Option.some.inj found
      exact .inl ⟨rfl, nofun⟩
    · cases found
  | cons d rest ih =>
    rw [search] at found
    obtain ⟨value, among, found⟩ := List.exists_of_findSome?_eq_some found
    dsimp only at found
    split at found
    · rcases ih found with ⟨kept, notLater⟩ | ⟨d', mem, same, among'⟩
      · by_cases here : (d.sort, d.name) = x
        · subst here
          refine .inr ⟨d, by simp, rfl, ?_⟩
          rw [kept, Valuation.set_self]
          exact among
        · exact .inl ⟨kept.trans (Valuation.set_other here),
            List.forall_mem_cons.2 ⟨here, notLater⟩⟩
      · exact .inr ⟨d', List.mem_cons_of_mem _ mem, same, among'⟩
    · cases found

/-! ## Decisions -/

theorem mem_variablesOf {x : VariableSort × String} :
    x ∈ variablesOf as ↔ ∃ e ∈ as, x ∈ e.vars := by
  simp [variablesOf, List.mem_eraseDups]

/-- The lines whose crossings a decision looks at. -/
def linesOf (as : List (Expr .bool)) : List (List Line) :=
  (as.flatMap (Expr.differences (pinsOf as))).filterMap id

/-- The domains that a decision searches. -/
def domainsOf (as : List (Expr .bool)) : List Domain := domains as (linesOf as)

theorem exists_domain {x : VariableSort × String} (mem : x ∈ variablesOf as) :
    ∃ d ∈ domainsOf as, (d.sort, d.name) = x := by
  refine ⟨_, List.mem_map_of_mem mem, ?_⟩
  dsimp only
  split <;> rfl

theorem domain_cases {d : Domain} (mem : d ∈ domainsOf as) :
    (d.sort, d.name) ∈ variablesOf as ∧
      ((∃ value, pinsOf as d.sort d.name = some value ∧ d.values = [value]) ∨
        (pinsOf as d.sort d.name = none ∧
          d.values = candidates d.sort (crossings (linesOf as) d.sort d.name))) := by
  obtain ⟨⟨s, name⟩, occurs, same⟩ := List.mem_map.1 mem
  dsimp only at same
  split at same
  · next value pin =>
    subst same
    exact ⟨occurs, .inl ⟨value, pin, rfl⟩⟩
  · next free =>
    subst same
    exact ⟨occurs, .inr ⟨free, rfl⟩⟩

/-- A decision is never a guess. -/
theorem decideAssertions_sound (h : decideAssertions as = .satisfied w) :
    ∀ e ∈ as, e.eval w = true := by
  unfold decideAssertions at h
  dsimp only at h
  split at h
  · next found =>
    cases h
    exact fun e mem => search_sound found (.ofExpr e) (List.mem_map_of_mem mem)
  · split at h <;> cases h

/-- What a decision gives a variable is among the values that are tried for it. -/
theorem decideAssertions_among (h : decideAssertions as = .satisfied w) {x : VariableSort × String}
    (mem : x ∈ variablesOf as) :
    ∃ d ∈ domainsOf as, (d.sort, d.name) = x ∧ w d.sort d.name ∈ d.values := by
  unfold decideAssertions at h
  dsimp only at h
  split at h
  · next found =>
    cases h
    obtain ⟨d, isDomain, same⟩ := exists_domain mem
    exact (search_among found x).resolve_left fun unchanged => unchanged.2 d isDomain same
  · split at h <;> cases h

/-- Values from the domains that make all assertions true are found, or others that do. -/
theorem exists_search (holds : ∀ e ∈ as, e.eval w = true)
    (among : ∀ d ∈ domainsOf as, w d.sort d.name ∈ d.values) :
    ∃ v, search (as.map .ofExpr) (domainsOf as) [] .zero = some v ∧
      decideAssertions as = .satisfied v := by
  have isSome : (search (as.map .ofExpr) (domainsOf as) [] .zero).isSome = true := by
    refine search_isSome (w := w) ?_ ?_ ?_ among nofun
    · intro g isGoal
      obtain ⟨e, mem, rfl⟩ := List.mem_map.1 isGoal
      exact holds e mem
    · intro g isGoal x occ
      obtain ⟨e, mem, rfl⟩ := List.mem_map.1 isGoal
      exact List.mem_eraseDups.2 occ
    · intro g isGoal x occ
      obtain ⟨e, mem, rfl⟩ := List.mem_map.1 isGoal
      exact .inr (exists_domain (mem_variablesOf.2 ⟨e, mem, List.mem_eraseDups.1 occ⟩))
  obtain ⟨v, found⟩ := Option.isSome_iff_exists.1 isSome
  refine ⟨v, found, ?_⟩
  unfold domainsOf linesOf at found
  rw [decideAssertions, found]

/-- When every variable is pinned and the assertions are all true under the pinned values, these
values are found. -/
theorem decideAssertions_of_holds (pinned : ∀ x ∈ variablesOf as, (pinsOf as x.1 x.2).isSome = true)
    (holds : ∀ e ∈ as, e.eval w = true) :
    ∃ v, decideAssertions as = .satisfied v ∧ ∀ x ∈ variablesOf as, v x.1 x.2 = w x.1 x.2 := by
  have single : ∀ d ∈ domainsOf as, d.values = [w d.sort d.name] := by
    intro d mem
    obtain ⟨occurs, ⟨value, pin, values⟩ | ⟨free, -⟩⟩ := domain_cases mem
    · rw [values, pinsOf_sound holds pin]
    · have := pinned _ occurs
      rw [free] at this
      cases this
  obtain ⟨v, found, decided⟩ := exists_search holds fun d mem => by simp [single d mem]
  refine ⟨v, decided, fun x mem => ?_⟩
  obtain ⟨d, isDomain, rfl⟩ := exists_domain mem
  exact (search_agrees single (by simp) found).2 d isDomain

/-- When every variable is pinned, assertions that nothing makes true are seen to be
unsatisfiable. -/
theorem decideAssertions_of_fails (pinned : ∀ x ∈ variablesOf as, (pinsOf as x.1 x.2).isSome = true)
    (fails : ∀ w : Valuation, ∃ e ∈ as, e.eval w = false) :
    decideAssertions as = .unsatisfiable := by
  cases h : decideAssertions as with
  | satisfied w =>
    obtain ⟨e, mem, isFalse⟩ := fails w
    rw [decideAssertions_sound h e mem] at isFalse
    cases isFalse
  | unsatisfiable => rfl
  | undecided =>
    have covers : covered as (as.flatMap (Expr.differences (pinsOf as))) = true := by
      rw [covered, Bool.or_eq_true]
      exact .inl (List.all_eq_true.2 pinned)
    unfold decideAssertions at h
    dsimp only at h
    split at h
    · cases h
    · rw [if_pos covers] at h
      cases h

end RecordAudit
