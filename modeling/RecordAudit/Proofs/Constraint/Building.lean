import Mathlib.Data.List.Induction
import Mathlib.Tactic.Common
import RecordAudit.Constraint.Builder
import RecordAudit.Proofs.Solver.Reported

/-!
# Builders keep the latest values

A builder holds of each part the latest value that it accepted, and nothing else of what it was
asked. So what it builds is the constraint of these values; a step that is refused leaves no trace,
and steps for different parts may be taken in either order.

## Main definitions

* `ConstraintBuilder.Part`: the six parts of a constraint.
* `ConstraintBuilder.latest`: the latest value of a part that steps gave and that was accepted.
* `ConstraintBuilder.holding`: the builder that holds values of parts.
-/

namespace RecordAudit

open Reading

namespace ConstraintBuilder

/-- The parts of a constraint. -/
inductive Part where
  | id
  | name
  | description
  | severity
  | kinds
  | build
  deriving DecidableEq

namespace Part

def all : List Part := [.id, .name, .description, .severity, .kinds, .build]

def label : Part → String
  | .id => "id"
  | .name => "name"
  | .description => "description"
  | .severity => "severity"
  | .kinds => "variables"
  | .build => "build"

/-- What a step can give for a part. -/
abbrev Given : Part → Type
  | .id | .name | .description => Option String
  | .severity => Value
  | .kinds => Assoc Value
  | .build => Option (Declared → Except Fault Built)

/-- Whether a value is there and not empty. -/
def isUsable : (p : Part) → p.Given → Bool
  | .id, given | .name, given | .description, given => given.any (· != "")
  | .severity, given =>
    match Severity.ofValue given with
    | .ok level => level.name != ""
    | .error _ => false
  | .kinds, given => !given.isEmpty
  | .build, given => given.isSome

theorem mem_all (p : Part) : p ∈ all := by cases p <;> simp [all]

end Part

namespace Step

/-- The part that a step sets. -/
def part? : Step → Option Part
  | .id _ => some .id
  | .name _ => some .name
  | .description _ => some .description
  | .severity _ => some .severity
  | .kinds _ => some .kinds
  | .build _ => some .build
  | .finish => none

/-- The value for a part that a step gives and that is accepted. Only a severity can be refused. -/
def accepted : (p : Part) → Step → Option p.Given
  | .id, .id given | .name, .name given | .description, .description given => some given
  | .severity, .severity given => if (Severity.ofValue given).isOk then some given else none
  | .kinds, .kinds given => some given
  | .build, .build given => some given
  | _, _ => none

theorem accepted_of_ne {s : Step} {p : Part} (other : s.part? ≠ some p) : s.accepted p = none := by
  cases s <;> cases p <;> first | rfl | exact absurd rfl other

end Step

variable {b b' : ConstraintBuilder} {s s' : Step} {steps steps' rest : List Step} {p : Part}
  {fault : Fault}

/-! ## Runs -/

def after (b : ConstraintBuilder) (steps : List Step) : ConstraintBuilder :=
  steps.foldl (fun b s => (b.respond s).2) b

def answers (b : ConstraintBuilder) : List Step → List (Except Fault (Option Constraint))
  | [] => []
  | s :: rest => (b.respond s).1 :: (b.respond s).2.answers rest

theorem after_append : b.after (steps ++ rest) = (b.after steps).after rest := List.foldl_append

theorem after_concat : b.after (steps ++ [s]) = ((b.after steps).respond s).2 := after_append

theorem answers_append :
    b.answers (steps ++ rest) = b.answers steps ++ (b.after steps).answers rest := by
  induction steps generalizing b with
  | nil => rfl
  | cons s others ih => exact congrArg ((b.respond s).1 :: ·) ih

theorem length_answers : (b.answers steps).length = steps.length := by
  induction steps generalizing b with
  | nil => rfl
  | cons s others ih => exact congrArg (· + 1) ih

/-! ## Latest values -/

def latest (p : Part) (steps : List Step) : Option p.Given :=
  (steps.filterMap (Step.accepted p)).getLast?

theorem latest_concat : latest p (steps ++ [s]) = (s.accepted p).or (latest p steps) := by
  unfold latest
  cases accepted : s.accepted p <;> simp [accepted]

theorem latest_swap (different : s.part? ≠ s'.part?) :
    latest p (steps ++ [s, s']) = latest p (steps ++ [s', s]) := by
  have split : ∀ s s' : Step, steps ++ [s, s'] = steps ++ [s] ++ [s'] := fun s s' => by simp
  rw [split, split, latest_concat, latest_concat, latest_concat, latest_concat]
  by_cases sets : s.part? = some p
  · rw [Step.accepted_of_ne (s := s') fun also => different (sets.trans also.symm)]
    rfl
  · rw [Step.accepted_of_ne sets]
    rfl

def holding (values : (p : Part) → Option p.Given) : ConstraintBuilder where
  id := (values .id).join
  name := (values .name).join
  description := (values .description).join
  severity := (values .severity).bind fun given => (Severity.ofValue given).toOption
  kinds := values .kinds
  build := (values .build).join

theorem respond_severity (given : Value) :
    b.respond (.severity given) =
      match Severity.ofValue given with
      | .ok level => (.ok none, { b with severity := some level })
      | .error fault => (.error fault, b) := by
  simp only [respond, withSeverity]
  cases Severity.ofValue given <;> rfl

/-- A step replaces the value of the part that it sets, if it is accepted. -/
theorem respond_holding (values : (p : Part) → Option p.Given) (s : Step) :
    ((holding values).respond s).2 = holding fun p => (s.accepted p).or (values p) := by
  cases s with
  | severity given =>
    rw [respond_severity]
    cases level : Severity.ofValue given <;>
      simp [holding, Step.accepted, level, Except.isOk, Except.toBool, Except.toOption]
  | _ => rfl

theorem after_eq (steps : List Step) : empty.after steps = holding fun p => latest p steps := by
  induction steps using List.reverseRecOn with
  | nil => rfl
  | append_singleton steps s ih =>
    rw [after_concat, ih, respond_holding]
    simp only [latest_concat]

/-! ## Refused steps and steps for different parts -/

theorem respond_of_error (refused : (b.respond s).1 = .error fault) : (b.respond s).2 = b := by
  cases s with
  | severity given =>
    rw [respond_severity] at refused ⊢
    cases level : Severity.ofValue given with
    | ok level' =>
      rw [level] at refused
      cases refused
    | error fault' => rfl
  | finish => rfl
  | _ => cases refused

theorem answer_eq (sets : s.part? = some p) (b b' : ConstraintBuilder) :
    (b.respond s).1 = (b'.respond s).1 := by
  cases s with
  | severity given =>
    rw [respond_severity, respond_severity]
    cases Severity.ofValue given <;> rfl
  | finish => cases sets
  | _ => rfl

theorem after_swap (steps : List Step) (different : s.part? ≠ s'.part?) :
    empty.after (steps ++ [s, s']) = empty.after (steps ++ [s', s]) := by
  rw [after_eq, after_eq]
  exact congrArg holding (funext fun p => latest_swap different)

/-! ## What is built -/

theorem respond_finish : (b.respond .finish).1 = b.finish.map some := rfl

def isLacking (values : (p : Part) → Option p.Given) (p : Part) : Bool := !(values p).any p.isUsable

def lacking (values : (p : Part) → Option p.Given) : List Part := Part.all.filter (isLacking values)

variable {values : (p : Part) → Option p.Given}

theorem lacking_eq_nil_iff :
    lacking values = [] ↔ ∀ p, ∃ given, values p = some given ∧ p.isUsable given = true := by
  simp [lacking, List.filter_eq_nil_iff, isLacking, Part.mem_all, Option.any_eq_true]

theorem missing_holding : (holding values).missing = (lacking values).map Part.label := by
  have text : ∀ given : Option (Option String),
      (given.join.filter (· != "")).isNone = !given.any fun given => given.any (· != "") := by
    rintro (_ | _ | text)
    · rfl
    · rfl
    · by_cases empty : text = "" <;> simp [empty]
  have severity : (holding values).severity.isNone = isLacking values .severity := by
    unfold holding isLacking Part.isUsable
    cases values .severity with
    | none => rfl
    | some given =>
      cases level : Severity.ofValue given with
      | error fault => simp [level, Except.toOption]
      | ok level' => cases level' <;> simp [level, Except.toOption, Severity.name]
  have kinds : ((holding values).kinds.filter (!·.isEmpty)).isNone = isLacking values .kinds := by
    unfold holding isLacking Part.isUsable
    cases values .kinds with
    | none => rfl
    | some given => cases empty : given.isEmpty <;> simp [empty]
  have build : (holding values).build.isNone = isLacking values .build := by
    unfold holding isLacking Part.isUsable
    rcases values .build with _ | _ | build <;> rfl
  have flags : (holding values).missing =
      Part.all.filterMap fun p => if isLacking values p then some p.label else none := by
    unfold missing
    rw [severity, kinds, build]
    simp only [holding, text]
    rfl
  rw [flags, lacking, ← List.filterMap_eq_filter, List.map_filterMap]
  refine List.filterMap_congr fun p _ => ?_
  cases absent : isLacking values p <;> simp [Option.guard, absent]

theorem finish_of_lacking (absent : lacking values ≠ []) :
    (holding values).finish = .error (.incompleteConstraint ((lacking values).map Part.label)) := by
  rw [← missing_holding]
  unfold finish
  split
  · next missing _ =>
    rw [missing_holding, List.map_eq_nil_iff] at missing
    exact absurd missing absent
  · rfl

theorem finish_of_complete (complete : lacking values = []) :
    ∃ id name description severity kinds build, values .id = some (some id) ∧
      values .name = some (some name) ∧ values .description = some (some description) ∧
      values .severity = some severity ∧ values .kinds = some kinds ∧
      values .build = some (some build) ∧ (Severity.ofValue severity).isOk = true ∧
      (holding values).finish = Constraint.ofNames id name description severity kinds build := by
  have usable := lacking_eq_nil_iff.1 complete
  have text : ∀ given : Option String, given.any (· != "") = true → ∃ text, given = some text := by
    rintro (_ | text) there
    · cases there
    · exact ⟨text, rfl⟩
  obtain ⟨given, id, there⟩ := usable .id
  obtain ⟨idText, rfl⟩ := text given there
  obtain ⟨given, name, there⟩ := usable .name
  obtain ⟨nameText, rfl⟩ := text given there
  obtain ⟨given, description, there⟩ := usable .description
  obtain ⟨descriptionText, rfl⟩ := text given there
  obtain ⟨given, severity, known⟩ := usable .severity
  obtain ⟨kindNames, kinds, -⟩ := usable .kinds
  obtain ⟨_ | builder, build, there⟩ := usable .build
  · cases there
  have nothing : (holding values).missing = [] := by
    rw [missing_holding, complete]
    rfl
  cases level : Severity.ofValue given with
  | error fault => simp [Part.isUsable, level] at known
  | ok level' =>
    refine ⟨idText, nameText, descriptionText, given, kindNames, builder, id, name, description,
      severity, kinds, build,
      by rw [level]; rfl, ?_⟩
    have parts : holding values =
        ⟨some idText, some nameText, some descriptionText, some level', some kindNames,
            some builder⟩ := by
      simp [holding, id, name, description, severity, kinds, build, level, Except.toOption]
    rw [parts] at nothing ⊢
    simp only [finish, nothing, Constraint.ofNames, level, ok_bind]

theorem exists_kindsOf_iff {kinds : Assoc Value} :
    (∃ known, Constraint.kindsOf kinds = .ok known) ↔
      ∀ entry ∈ kinds.entries, ∃ kind, Kind.ofValue entry.2 = .ok kind := by
  have each : ∀ entry ∈ kinds.entries,
      (∃ pair, (do return (entry.1, ← Kind.ofValue entry.2) : Except Fault (String × Kind)) =
        .ok pair) ↔ ∃ kind, Kind.ofValue entry.2 = .ok kind := by
    intro entry _
    cases Kind.ofValue entry.2 <;> simp [pure, Except.pure]
  rw [← forall₂_congr each, ← exists_mapM_ok_iff]
  change (∃ known, (do return .ofList (← kinds.entries.mapM fun entry => do
    return (entry.1, ← Kind.ofValue entry.2)) : Except Fault (Assoc Kind)) = .ok known) ↔ _
  cases kinds.entries.mapM fun entry =>
    (do return (entry.1, ← Kind.ofValue entry.2) : Except Fault (String × Kind)) <;>
    simp [pure, Except.pure]

theorem exists_ofNames_iff {id name description : String} {severity : Value} {kinds : Assoc Value}
    {build : Declared → Except Fault Built} (known : (Severity.ofValue severity).isOk = true) :
    (∃ c, Constraint.ofNames id name description severity kinds build = .ok c) ↔
      ∀ entry ∈ kinds.entries, ∃ kind, Kind.ofValue entry.2 = .ok kind := by
  obtain ⟨level, known⟩ := isOk_iff.1 known
  rw [← exists_kindsOf_iff, Constraint.ofNames, known, ok_bind]
  cases Constraint.kindsOf kinds <;> simp [pure, Except.pure]

/-- A constraint is built just when no part is lacking and all kinds are known. -/
theorem exists_finish_iff :
    (∃ c, (holding values).finish = .ok c) ↔
      (∀ p, ∃ given, values p = some given ∧ p.isUsable given = true) ∧
        ∀ kinds, values .kinds = some kinds →
          ∀ entry ∈ kinds.entries, ∃ kind, Kind.ofValue entry.2 = .ok kind := by
  rw [← lacking_eq_nil_iff]
  by_cases complete : lacking values = []
  · obtain ⟨id, name, description, severity, kinds, build, -, -, -, -, isKinds, -, known, built⟩ :=
      finish_of_complete complete
    rw [built, exists_ofNames_iff known, isKinds]
    simp [complete]
  · rw [finish_of_lacking complete]
    simp [complete]

/-! ## Answers -/

/-- Without a step that is refused there is one answer less, and the others are the same. -/
theorem eraseIdx_answers (refused : ((b.after steps).respond s).1 = .error fault)
    (rest : List Step) :
    (b.answers (steps ++ s :: rest)).eraseIdx steps.length = b.answers (steps ++ rest) := by
  rw [answers_append, answers_append, answers, respond_of_error refused,
    List.eraseIdx_append_of_length_le (Nat.le_of_eq length_answers), length_answers, Nat.sub_self,
    List.eraseIdx_zero, List.tail_cons]

/-- The answers to two steps for different parts change places with the steps, and later answers are
the same. -/
theorem answers_swap {p' : Part} (sets : s.part? = some p) (sets' : s'.part? = some p')
    (different : p ≠ p') (steps rest : List Step) :
    ∃ earlier answer answer' later, earlier.length = steps.length ∧
      empty.answers (steps ++ s :: s' :: rest) = earlier ++ answer :: answer' :: later ∧
      empty.answers (steps ++ s' :: s :: rest) = earlier ++ answer' :: answer :: later := by
  have apart : s.part? ≠ s'.part? := by
    rw [sets, sets']
    exact fun same => different (Option.some.inj same)
  have swapped := after_swap steps apart
  rw [after_append, after_append] at swapped
  refine ⟨empty.answers steps, ((empty.after steps).respond s).1,
    ((empty.after steps).respond s').1, ((empty.after steps).after [s, s']).answers rest,
    length_answers, ?_, ?_⟩
  · rw [answers_append, answers, answers, answer_eq sets' _ (empty.after steps)]
    rfl
  · rw [answers_append, answers, answers, answer_eq sets _ (empty.after steps), swapped]
    rfl

end ConstraintBuilder

open ConstraintBuilder in
/-- After any steps, a builder builds a constraint just when the latest accepted value of each part
is there and not empty and all kinds are known, and then it is the constraint that these values
make. With parts lacking it names them in their order. A step that is refused leaves the builder as
it was, so without it all other answers are the same; and steps that set different parts may be
taken in either order. -/
theorem builder_keeps_latest (steps : List Step) :
    let b := empty.after steps
    let values := fun p => latest p steps
    ((∃ c, (b.respond .finish).1 = .ok (some c)) ↔
      (∀ p, ∃ given, values p = some given ∧ p.isUsable given = true) ∧
        ∀ kinds, values .kinds = some kinds →
          ∀ entry ∈ kinds.entries, ∃ kind, Kind.ofValue entry.2 = .ok kind) ∧
    (∀ c, (b.respond .finish).1 = .ok (some c) →
      ∃ id name description severity kinds build, values .id = some (some id) ∧
        values .name = some (some name) ∧ values .description = some (some description) ∧
        values .severity = some severity ∧
        values .kinds = some kinds ∧ values .build = some (some build) ∧
        Constraint.ofNames id name description severity kinds build = .ok c) ∧
    (lacking values ≠ [] →
      (b.respond .finish).1 = .error (.incompleteConstraint ((lacking values).map Part.label))) ∧
    (∀ s fault rest, (b.respond s).1 = .error fault → (b.respond s).2 = b ∧
      (empty.answers (steps ++ s :: rest)).eraseIdx steps.length = empty.answers (steps ++ rest)) ∧
    ∀ s s' p p' rest, s.part? = some p → s'.part? = some p' → p ≠ p' →
      ∃ earlier answer answer' later, earlier.length = steps.length ∧
        empty.answers (steps ++ s :: s' :: rest) = earlier ++ answer :: answer' :: later ∧
        empty.answers (steps ++ s' :: s :: rest) = earlier ++ answer' :: answer :: later := by
  intro b values
  have held : b = holding values := after_eq steps
  have finished : ∀ c, (b.respond .finish).1 = .ok (some c) ↔ (holding values).finish = .ok c := by
    intro c
    rw [held, respond_finish]
    cases (holding values).finish <;> simp [Except.map]
  refine ⟨?_, fun c built => ?_, fun absent => ?_, fun s fault rest refused => ?_,
    fun s s' p p' rest sets sets' => ?_⟩
  · simp only [finished]
    exact exists_finish_iff
  · have complete : lacking values = [] :=
      lacking_eq_nil_iff.2 (exists_finish_iff.1 ⟨c, (finished c).1 built⟩).1
    obtain ⟨id, name, description, severity, kinds, build, isId, isName, isDescription, isSeverity,
      isKinds, isBuild, -, same⟩ := finish_of_complete complete
    exact ⟨id, name, description, severity, kinds, build, isId, isName, isDescription, isSeverity,
      isKinds, isBuild, same.symm.trans ((finished c).1 built)⟩
  · rw [held, respond_finish, finish_of_lacking absent]
    rfl
  · exact ⟨respond_of_error refused, eraseIdx_answers refused rest⟩
  · exact fun different => answers_swap sets sets' different steps rest

open ConstraintBuilder in
/-- An empty id is given and replaced after a first attempt to build, and an unknown severity is
refused. -/
theorem builder_keeps_latest_retried :
    let steps : List Step := [.id (some ""), .name (some "C"), .description (some "c holds"),
      .severity (.text "info"), .kinds (.ofList [("x", .text "int")]),
      .build (some fun _ => .ok (.many [])), .finish, .severity (.text "fatal"), .id (some "c")]
    ∃ c, ((empty.after steps).respond .finish).1 = .ok (some c) ∧ c.id = "c" ∧
        c.severity = .info := by
  intro steps
  obtain ⟨succeeds, direct, -⟩ := builder_keeps_latest steps
  have usable : ∀ p, ∃ given, latest p steps = some given ∧ p.isUsable given = true := by
    rintro (_ | _ | _ | _ | _ | _) <;> exact ⟨_, rfl, by decide⟩
  have known : ∀ kinds, latest .kinds steps = some kinds →
      ∀ entry ∈ kinds.entries, ∃ kind, Reading.Kind.ofValue entry.2 = .ok kind := by
    intro kinds given entry mem
    obtain rfl : .ofList [("x", .text "int")] = kinds := Option.some.inj given
    obtain rfl := List.mem_singleton.1 mem
    exact ⟨.count, rfl⟩
  obtain ⟨c, built⟩ := succeeds.2 ⟨usable, known⟩
  obtain ⟨id, name, description, severity, kinds, build, isId, -, -, isSeverity, -, -, made⟩ :=
    direct c built
  obtain rfl : "c" = id := Option.some.inj (Option.some.inj isId)
  obtain rfl : Value.text "info" = severity := Option.some.inj isSeverity
  have level : Severity.ofValue (.text "info") = .ok .info := rfl
  rw [Constraint.ofNames, level, ok_bind] at made
  cases read : Constraint.kindsOf kinds with
  | error fault =>
    rw [read] at made
    cases made
  | ok known =>
    rw [read] at made
    cases made
    exact ⟨_, built, rfl, rfl⟩

end RecordAudit
