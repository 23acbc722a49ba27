import RecordAudit.Proofs.Flattening
import RecordAudit.Proofs.Solver.Stack

/-!
# Constraints are isolated

All constraints of a record are checked in one session, and the session serves many records. The
finding of a constraint is nevertheless the one that it has alone, as long as the record has raw
texts at all.
-/

namespace RecordAudit

def World.checkAlone {σ : Type} (m : Surroundings σ) (t : TaskId) (settings : SolverSettings)
    (timeout : Timeout) (r : Record) (cs : List Constraint) (specs : List FieldSpec) (w : World σ) :
    Option (Except Interrupt (List ConstraintFinding)) × World σ :=
  w.runAlone m t (checkRecord settings r cs specs timeout).run

section

variable {σ : Type} {m : Surroundings σ} {j : Judge} {clean : σ → Prop}

/-- On a backend that gives a judge's replies a task alone finds what the judge says, and leaves the
world at rest. -/
theorem World.checkAlone_eq (keeps : m.Keeps j.replies clean) {w : World σ} (rest : w.AtRest clean)
    (t : TaskId) (settings : SolverSettings) (timeout : Timeout) (r : Record) (cs : List Constraint)
    (specs : List FieldSpec) :
    (w.checkAlone m t settings timeout r cs specs).1 = some (r.onTexts fun values =>
        (cs ++ compileFieldRules specs).map (j.finding settings timeout values)) ∧
      (w.checkAlone m t settings timeout r cs specs).2.AtRest clean := by
  have start : Consistent m.toMachine j.replies clean w.callsOn w fun _ => .idle [] :=
    rest.consistent nofun
  obtain ⟨result, st', ended, ⟨rfl, idle⟩, after⟩ :=
    World.runAlone_fits (t := t) keeps start (fun _ _ => rfl)
      (wp_checkRecord settings r cs specs timeout rfl)
  refine ⟨ended, after.atRest fun u => ?_⟩
  by_cases e : u = t
  · rw [e, Function.update_self, idle]
  · rw [Function.update_of_ne e]
    rfl

/-- Whatever else is checked beside a constraint, before it or after it, in a session that has been
used or is fresh, its finding is the one that it has alone in a fresh session, against any record
with the same raw texts in its fields. So the findings of a list are those of its parts, in any
order, as often as it is checked. A record without raw texts is not checked at all, whatever the
constraint is about. -/
theorem constraints_isolated (keeps : m.Keeps j.replies clean) {w : World σ} (rest : w.AtRest clean)
    (t : TaskId) (settings : SolverSettings) (timeout : Timeout) :
    let check := fun (w : World σ) (r : Record) (cs : List Constraint) (specs : List FieldSpec) =>
      w.checkAlone m t settings timeout r cs specs
    ∃ finding : FieldValues → Constraint → ConstraintFinding,
      (∀ (c : Constraint) (values values' : FieldValues),
        (∀ name ∈ c.fields, values'.raw? name = values.raw? name) →
          finding values' c = finding values c) ∧
      (∀ r c, (check .empty r [c] []).1 = some (r.onTexts fun values => [finding values c])) ∧
      (∀ r cs specs, (check w r cs specs).1 =
          some (r.onTexts fun values => (cs ++ compileFieldRules specs).map (finding values)) ∧
        (check w r cs specs).2.AtRest clean ∧
        (check (check w r cs specs).2 r cs specs).1 = (check w r cs specs).1) ∧
      (∀ r cs₁ cs₂, ∃ first second, (check w r cs₁ []).1 = some (r.onTexts first) ∧
        (check (check w r cs₁ []).2 r cs₂ []).1 = some (r.onTexts second) ∧
        (check w r (cs₁ ++ cs₂) []).1 = some (r.onTexts fun values => first values ++
          second values)) ∧
      ∀ r (cs cs' : List Constraint), cs.Perm cs' → ∃ findings findings',
        (check w r cs []).1 = some (r.onTexts findings) ∧
          (check w r cs' []).1 = some (r.onTexts findings') ∧
        ∀ values, (findings values).Perm (findings' values) := by
  intro check
  have checked : ∀ {w : World σ}, w.AtRest clean → ∀ r cs specs,
      (check w r cs specs).1 = some (r.onTexts fun values =>
          (cs ++ compileFieldRules specs).map (j.finding settings timeout values)) ∧
        (check w r cs specs).2.AtRest clean :=
    fun rest r cs specs => World.checkAlone_eq keeps rest t settings timeout r cs specs
  refine ⟨j.finding settings timeout, fun c values values' same => ?_, fun r c => ?_,
    fun r cs specs => ?_, fun r cs₁ cs₂ => ?_, fun r cs cs' perm => ?_⟩
  · exact Constraint.concluded_congr same _ _
  · exact (checked (.empty _) r [c] []).1
  · obtain ⟨findings, after⟩ := checked rest r cs specs
    exact ⟨findings, after, (checked after r cs specs).1.trans findings.symm⟩
  · obtain ⟨first, after⟩ := checked rest r cs₁ []
    refine ⟨_, _, first, (checked after r cs₂ []).1, ?_⟩
    rw [(checked rest r (cs₁ ++ cs₂) []).1]
    simp [compileFieldRules]
  · exact ⟨_, _, (checked rest r cs []).1, (checked rest r cs' []).1, fun values =>
      (perm.append_right _).map _⟩

end

/-- A constraint with an integer in place of an assertion fails, and the bound after it is found to
hold, as it is alone. -/
theorem constraints_isolated_refused :
    let m : Surroundings AssertionStack := .fresh AssertionStack.backend .empty false
    let refused : Constraint :=
      ⟨"c", "C", "c holds", .error, .ofList [("x", .amount)], fun _ =>
        .ok (.many [.value (.int 1)])⟩
    let bound : Constraint := .ofTerms "b" "B" "x is not negative" .error [("x", .count)]
      [.compare .ge (.variable "x") (.literal (.int 0))]
    let check := fun cs : List Constraint =>
      (World.empty.checkAlone m 0 .standard none (.ofList [("x", .text "3")]) cs []).1
    ∃ failed held, check [refused, bound] = some (.ok [failed, held]) ∧
      check [bound, refused] = some (.ok [held, failed]) ∧ check [bound] = some (.ok [held]) := by
  intro m refused bound check
  have keeps : m.Keeps AssertionStack.decider.judge.replies (AssertionStack.view · = [[]]) :=
    AssertionStack.keeps_fresh false
  obtain ⟨finding, -, alone, together, -⟩ := constraints_isolated keeps (.empty _) 0 .standard none
  exact ⟨_, _, (together _ [refused, bound] []).1, (together _ [bound, refused] []).1,
    alone _ bound⟩

/-- A constraint has a finding on a count, and none when another field, which it is not about, holds
an integer that is too long to be written. -/
theorem findings_depend_elsewhere :
    let bound : Constraint := .ofTerms "b" "B" "x is not negative" .error [("x", .count)]
      [.compare .ge (.variable "x") (.literal (.int 0))]
    let check := fun r : Record => ((World.empty : World AssertionStack).checkAlone
      (.fresh AssertionStack.backend .empty false) 0 .standard none r [bound] []).1
    let plain : Record := .ofList [("x", .text "1")]
    let long : Record := .ofList [("x", .text "1"), ("y", .int (10 ^ Fault.maxIntegerDigits))]
    bound.fields = ["x"] ∧ (∃ finding, check plain = some (.ok [finding])) ∧
      check long = some (.error (.fault .integerTextTooLong)) := by
  intro bound check plain long
  have checked : ∀ r, check r = some (r.onTexts fun values =>
      [AssertionStack.decider.judge.finding .standard none values bound]) := fun r =>
    (World.checkAlone_eq (AssertionStack.keeps_fresh false) (.empty _) 0 .standard none
      r [bound] []).1
  refine ⟨rfl, ⟨_, (checked _).trans (congrArg some (Record.onTexts_of_ok rfl _))⟩, ?_⟩
  have flat : long.fieldValues = .error .integerTextTooLong :=
    Record.fieldValues_eq_error_iff.2 ⟨rfl, _, List.mem_cons_of_mem _ (List.mem_singleton.2 rfl),
      cellText?_of_isLongInteger isLongInteger_ten_pow⟩
  rw [checked, Record.onTexts, flat]
  rfl

end RecordAudit
