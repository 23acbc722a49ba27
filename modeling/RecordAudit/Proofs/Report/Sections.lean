import Mathlib.Algebra.Order.Ring.Nat
import Mathlib.Data.List.Perm.Basic
import Mathlib.Tactic.Common
import RecordAudit.Report

/-!
# Sections of reports

A report sorts the failures among findings into sections, one for each severity that occurs, most
serious first. No failure is lost or repeated, and the members of a section stand in the order of
the findings. What a report writes is its sections; without any section it is a text that says that
nothing failed.

## Main definitions

* `Report.Section`: the failures of one severity.
* `Report.Sorts`: sections hold the failures among findings.
* `Report.written`: the text of sections.
-/

namespace RecordAudit

namespace Report

variable {α : Type} {finding : α → Finding} {findings : List α} {ofMember : α → List String}
  {heading : Severity → Nat → String} {tier allPassed : String}

/-- The failures of one severity. -/
structure Section (α : Type) where
  severity : Severity
  members : List α

/-- An empty line, the heading with the number of members, and the lines of each member. -/
def Section.lines (heading : Severity → Nat → String) (ofMember : α → List String) (s : Section α) :
    List String :=
  ["", heading s.severity s.members.length] ++ s.members.flatMap ofMember

/-- Sections hold the failures among findings. -/
structure Sorts (finding : α → Finding) (findings : List α) (sections : List (Section α)) :
    Prop where
  /-- Sections have different severities, most serious first. -/
  ordered : (sections.map (·.severity)).Sublist [.error, .warning, .info]
  /-- There is a section for each severity of a failure, and for no other. -/
  occurs : ∀ severity, severity ∈ sections.map (·.severity) ↔
    ∃ f ∈ findings, (finding f).satisfied = false ∧ (finding f).severity = severity
  /-- Members stand in the order of the findings. -/
  inOrder : ∀ s ∈ sections, s.members.Sublist findings
  /-- Members are failures, and have the severity of their section. -/
  failed : ∀ s ∈ sections, ∀ f ∈ s.members, (finding f).satisfied = false ∧
    (finding f).severity = s.severity
  /-- Every failure is a member once. -/
  complete : (sections.flatMap (·.members)).Perm (findings.filter fun f => !(finding f).satisfied)

/-- The text of sections. Without sections it is another text. -/
def written (heading : Severity → Nat → String) (ofMember : α → List String) (allPassed : String)
    (sections : List (Section α)) : String :=
  if sections.isEmpty then allPassed
  else "\n".intercalate (sections.flatMap (Section.lines heading ofMember)) ++ "\n"

/-! ## Failures -/

theorem mem_failures {severity : Severity} {f : α} :
    f ∈ failures finding severity findings ↔
      f ∈ findings ∧ (finding f).satisfied = false ∧ (finding f).severity = severity := by
  simp [failures]

theorem failures_ne_nil_iff {severity : Severity} :
    failures finding severity findings ≠ [] ↔
      ∃ f ∈ findings, (finding f).satisfied = false ∧ (finding f).severity = severity := by
  simp [failures]

theorem failures_perm :
    (Severity.all.flatMap fun severity => failures finding severity findings).Perm
      (findings.filter fun f => !(finding f).satisfied) := by
  have ofSeverity : ∀ severity, failures finding severity findings =
      (findings.filter fun f => !(finding f).satisfied).filter fun f => (finding f).severity ==
          severity := by
    intro severity
    simp [failures, Bool.and_comm]
  simp only [Severity.all, List.flatMap_cons, List.flatMap_nil, List.append_nil, ofSeverity]
  generalize findings.filter (fun f => !(finding f).satisfied) = failed
  have milder : (failed.filter (fun f => (finding f).severity == .warning) ++
      failed.filter fun f => (finding f).severity == .info).Perm
        (failed.filter fun f => !((finding f).severity == .error)) := by
    have split := List.filter_append_perm (fun f => (finding f).severity == .warning)
      (failed.filter fun f => !((finding f).severity == .error))
    rw [List.filter_filter, List.filter_filter] at split
    convert split using 4 with f f <;> cases (finding f).severity <;> rfl
  exact (milder.append_left _).trans (List.filter_append_perm _ failed)

/-! ## Sections -/

/-- The section of a severity, if anything of that severity failed. -/
def Section.ofSeverity? (finding : α → Finding) (findings : List α) (severity : Severity) :
    Option (Section α) :=
  if (failures finding severity findings).isEmpty then none
  else some ⟨severity, failures finding severity findings⟩

def sections (finding : α → Finding) (findings : List α) : List (Section α) :=
  Severity.all.filterMap (Section.ofSeverity? finding findings)

theorem Section.ofSeverity?_eq_some_iff {severity : Severity} {s : Section α} :
    Section.ofSeverity? finding findings severity = some s ↔
      failures finding severity findings ≠ [] ∧
        s = ⟨severity, failures finding severity findings⟩ := by
  unfold Section.ofSeverity?
  split
  · next empty => simp [List.isEmpty_iff.1 empty]
  · next some => simp [List.isEmpty_iff.not.1 some, eq_comm (a := s)]

theorem mem_sections {s : Section α} :
    s ∈ sections finding findings ↔
      s.members = failures finding s.severity findings ∧
        failures finding s.severity findings ≠ [] := by
  simp only [sections, List.mem_filterMap, Section.ofSeverity?_eq_some_iff]
  constructor
  · rintro ⟨severity, -, occurs, rfl⟩
    exact ⟨rfl, occurs⟩
  · rintro ⟨members, occurs⟩
    exact ⟨s.severity, by cases s.severity <;> simp [Severity.all], occurs, by rw [← members]⟩

/-- What is made of the sections is made of the severities. -/
theorem flatMap_sections {β : Type} (f : Section α → List β) :
    (sections finding findings).flatMap f =
      Severity.all.flatMap fun severity =>
        ((Section.ofSeverity? finding findings severity).map f).getD [] := by
  unfold sections
  induction Severity.all with
  | nil => rfl
  | cons severity rest ih =>
    cases made : Section.ofSeverity? finding findings severity <;> simp [made, ih]

theorem sorts_sections (finding : α → Finding) (findings : List α) :
    Sorts finding findings (sections finding findings) where
  ordered := by
    have severities : (sections finding findings).map (·.severity) =
        Severity.all.filter fun severity => !(failures finding severity findings).isEmpty := by
      unfold sections
      induction Severity.all with
      | nil => rfl
      | cons severity rest ih =>
        cases empty : (failures finding severity findings).isEmpty <;>
          simp [Section.ofSeverity?, empty, ih]
    rw [severities]
    exact List.filter_sublist
  occurs severity := by
    rw [← failures_ne_nil_iff, List.mem_map]
    constructor
    · rintro ⟨s, mem, rfl⟩
      exact (mem_sections.1 mem).2
    · intro occurs
      exact ⟨⟨severity, failures finding severity findings⟩, mem_sections.2 ⟨rfl, occurs⟩, rfl⟩
  inOrder s mem := by
    rw [(mem_sections.1 mem).1]
    exact List.filter_sublist
  failed s mem f member := by
    rw [(mem_sections.1 mem).1] at member
    exact (mem_failures.1 member).2
  complete := by
    have members : ∀ severity,
        ((Section.ofSeverity? finding findings severity).map (·.members)).getD [] =
            failures finding severity findings := by
      intro severity
      cases all : failures finding severity findings <;> simp [Section.ofSeverity?, all]
    rw [flatMap_sections]
    simpa only [members] using failures_perm

/-! ## Texts -/

theorem sectionLines_eq (severity : Severity) :
    sectionLines finding ofMember tier findings severity =
      ((Section.ofSeverity? finding findings severity).map
        (Section.lines (fun severity count => severity.heading tier count) ofMember)).getD [] := by
  unfold sectionLines Section.ofSeverity?
  cases failures finding severity findings <;> rfl

theorem flatMap_lines_eq_nil_iff {sections : List (Section α)} :
    sections.flatMap (Section.lines heading ofMember) = [] ↔ sections = [] := by
  cases sections <;> simp [Section.lines]

/-- A report is the text of its sections. -/
theorem text_eq_written :
    text finding ofMember tier allPassed findings =
      written (fun severity count => severity.heading tier count) ofMember allPassed
        (sections finding findings) := by
  have all : Severity.all.flatMap (sectionLines finding ofMember tier findings) =
      (sections finding findings).flatMap
          (Section.lines (fun severity count => severity.heading tier count) ofMember) := by
    rw [flatMap_sections]
    exact List.flatMap_congr fun severity _ => sectionLines_eq severity
  unfold text written
  rw [all]
  split
  · next nothing => simp [flatMap_lines_eq_nil_iff.1 nothing]
  · next something =>
    rw [if_neg]
    simpa using mt flatMap_lines_eq_nil_iff.2 something

theorem head?_written {s : Section α} {rest : List (Section α)} :
    (written heading ofMember allPassed (s :: rest)).toList.head? = some '\n' := by
  simp [written, Section.lines, String.toList_intercalate]

theorem text_eq_allPassed_iff (starts : allPassed.toList.head? ≠ some '\n') :
    text finding ofMember tier allPassed findings = allPassed ↔
      ∀ f ∈ findings, (finding f).satisfied = true := by
  have sorts := sorts_sections finding findings
  have none_failed : (∀ f ∈ findings, (finding f).satisfied = true) ↔
      sections finding findings = [] := by
    constructor
    · intro satisfied
      rw [← List.map_eq_nil_iff (f := (·.severity)), List.eq_nil_iff_forall_not_mem]
      intro severity mem
      obtain ⟨f, mem, failed, -⟩ := (sorts.occurs severity).1 mem
      rw [satisfied f mem] at failed
      cases failed
    · intro empty f mem
      by_contra failed
      have occurs := (sorts.occurs (finding f).severity).2 ⟨f, mem, by simpa using failed, rfl⟩
      simp [empty] at occurs
  rw [text_eq_written, none_failed]
  cases sections finding findings with
  | nil => simp [written]
  | cons s rest =>
    simp only [reduceCtorEq, iff_false]
    intro same
    exact starts (same ▸ head?_written)

theorem Sorts.sum_length {sections : List (Section α)} (sorts : Sorts finding findings sections) :
    (sections.map (·.members.length)).sum =
      (findings.filter fun f => !(finding f).satisfied).length := by
  rw [← sorts.complete.length_eq, List.length_flatMap]

/-! ## Lines of constraints -/

/-- The explanation of an error or a warning is shown, unless it is empty. -/
def Shows (f : ConstraintFinding) (explanation : String) : Prop :=
  f.explanation = some explanation ∧ explanation ≠ "" ∧
    (f.severity = .error ∨ f.severity = .warning)

theorem constraintLines_cases (f : ConstraintFinding) :
    (∃ explanation, Shows f explanation ∧
      constraintLines f = [bullet f.message, "    " ++ explanation]) ∨
        (¬∃ explanation, Shows f explanation) ∧ constraintLines f = [bullet f.message] := by
  unfold constraintLines Shows
  cases f.explanation with
  | none => simp
  | some e =>
    by_cases empty : e = ""
    · simp [empty]
    · cases f.severity <;> simp [empty]

end Report

open Report in
/-- A report on findings says that all passed just when nothing failed. It consists of one section
for each severity of a failure, most serious first, with a heading that counts the members and with
a bullet for each message in the order of the findings; each failure is a member once, so the counts
add up to the number of failures. A report on constraints shows the explanation of an error or a
warning after the message. -/
theorem reports_complete :
    let heading := fun (tier : String) (severity : Severity) (count : Nat) => match severity with
      | .error => "❌ " ++ tier ++ "ERRORS (" ++ toString count ++ "):"
      | .warning => "⚠️  " ++ tier ++ "WARNINGS (" ++ toString count ++ "):"
      | .info => "ℹ️  " ++ tier ++ "INFO (" ++ toString count ++ "):"
    (∀ findings : List Finding, ∃ sections, Sorts id findings sections ∧
      ofRules findings =
        written (heading "") (fun f => ["  • " ++ f.message])
          "✅ All validation rules passed!" sections ∧
      (ofRules findings = "✅ All validation rules passed!" ↔ ∀ f ∈ findings, f.satisfied = true) ∧
      (sections.map (·.members.length)).sum = (findings.filter (!·.satisfied)).length) ∧
    (∀ findings : List ConstraintFinding, ∃ sections, Sorts (·.toFinding) findings sections ∧
      ofConstraints findings =
        written (heading "SMT ") constraintLines "✅ All SMT constraints satisfied!" sections ∧
      (ofConstraints findings = "✅ All SMT constraints satisfied!" ↔
        ∀ f ∈ findings, f.satisfied = true) ∧
      (sections.map (·.members.length)).sum = (findings.filter (!·.satisfied)).length) ∧
    ∀ f : ConstraintFinding,
      (∃ explanation, Shows f explanation ∧
        constraintLines f = ["  • " ++ f.message, "    " ++ explanation]) ∨
            (¬∃ explanation, Shows f explanation) ∧ constraintLines f = ["  • " ++ f.message] := by
  intro heading
  have headings : ∀ tier, heading tier = fun severity count =>
    severity.heading tier count := fun tier => by
    funext severity count
    cases severity <;> rfl
  refine ⟨fun findings => ?_, fun findings => ?_, constraintLines_cases⟩
  · have sorts := sorts_sections id findings
    exact ⟨_, sorts, headings "" ▸ text_eq_written, text_eq_allPassed_iff (by decide),
      sorts.sum_length⟩
  · have sorts := sorts_sections (fun f : ConstraintFinding => f.toFinding) findings
    exact ⟨_, sorts, headings "SMT " ▸ text_eq_written, text_eq_allPassed_iff (by decide),
      sorts.sum_length⟩

end RecordAudit
