import RecordAudit.Audit
import RecordAudit.Proofs.Session.Results
import RecordAudit.Proofs.Solver.Stack

/-!
# Audits side by side

Many records are audited by tasks that share a session. Whatever the order of their steps is, each
record gets the findings that it gets alone, and the audit fails only by the rules.
-/

namespace RecordAudit

open TaskM

namespace Audit

variable {σ : Type} {m : Surroundings σ} {j : Judge} {clean : σ → Prop} {w : World σ} {a : Audit}
  {r : Record} {records : Assoc Record}

/-! ## One record -/

def findings (a : Audit) (j : Judge) (r : Record) : Except Fault RecordFindings := do
  let values ← r.fieldValues
  let rules ← a.rules.mapM (·.finding values)
  return ⟨rules, (a.constraints ++ compileFieldRules a.specs).map
    (j.finding a.settings a.timeout values)⟩

theorem findings_error_iff {f : Fault} :
    a.findings j r = .error f ↔ applyRules a.rules r = .error f := by
  rw [findings, applyRules]
  cases r.fieldValues with
  | error f' => simp
  | ok values =>
    rw [ok_bind, ok_bind]
    cases a.rules.mapM (·.finding values) <;> simp [pure, Except.pure]

theorem wp_record {st : Stance} (hold : st.hold = .nothing) :
    (a.record r).wp j.replies st fun result st' =>
      result = (a.findings j r).mapError .fault ∧ st'.hold = .nothing := by
  unfold Audit.record findings applyRules
  rw [wp_bind, wp_ofExcept]
  cases flat : r.fieldValues with
  | error f => exact ⟨rfl, hold⟩
  | ok values =>
    rw [ok_bind, ok_bind]
    cases a.rules.mapM (·.finding values) with
    | error f => exact ⟨rfl, hold⟩
    | ok rules =>
      rw [mapError_ok, andThen_ok, wp_bind]
      refine TaskM.wp_mono ?_ (wp_checkRecord a.settings r a.constraints a.specs a.timeout hold)
      rintro result st' ⟨rfl, idle⟩
      rw [Record.onTexts_of_ok flat]
      exact ⟨rfl, idle⟩

/-- A record that is audited alone, with a session of its own. -/
theorem record_alone (keeps : m.Keeps j.replies clean) (t : TaskId) :
    (World.empty.runAlone m t (a.record r).run).1 = some ((a.findings j r).mapError .fault) := by
  have start : Consistent m.toMachine j.replies clean (World.empty : World σ).callsOn
      .empty fun _ => .idle [] :=
    (World.AtRest.empty clean).consistent nofun
  obtain ⟨result, st', ended, ⟨rfl, -⟩, -⟩ :=
    World.runAlone_fits (t := t) keeps start (fun _ _ => rfl) (wp_record rfl)
  exact ended

theorem within_record (a : Audit) (r : Record) : (a.record r).Within a.waits := by
  have checked := within_checkRecord a.settings r a.constraints a.specs a.timeout
  rw [List.length_append] at checked
  refine ((within_ofExcept (applyRules a.rules r)).bind (k := a.waits) fun rules => ?_).mono
    (by simp)
  exact checked.bind (k := 0) fun _ => trivial

/-! ## All records -/

/-- How the task of each record ends. -/
def Ends (a : Audit) (j : Judge) (records : Assoc Record) (t : TaskId)
    (result : Except Interrupt RecordFindings) (st : Stance) : Prop :=
  (∃ r, records.values[t]? = some r ∧ result = (a.findings j r).mapError .fault) ∧
    st.hold = .nothing

theorem start_coherent (rest : w.AtRest clean) (a : Audit) (records : Assoc Record) :
    (a.start w records).Coherent m.toMachine j.replies clean w.callsOn [] (a.Ends j records)
      fun _ => .idle [] := by
  refine .ofPrograms (rest.consistent nofun) fun t p there => ?_
  rw [List.getElem?_map, Option.map_eq_some_iff] at there
  obtain ⟨r, there, rfl⟩ := there
  refine TaskM.wp_mono ?_ (wp_record rfl)
  rintro result st ⟨rfl, idle⟩
  exact ⟨⟨r, there, rfl⟩, idle⟩

theorem start_left (a : Audit) (w : World σ) (records : Assoc Record) :
    ∀ state ∈ (a.start w records).tasks, state.Left a.waits := by
  intro state mem
  obtain ⟨p, isProgram, rfl⟩ := List.mem_map.1 mem
  obtain ⟨r, -, rfl⟩ := List.mem_map.1 isProgram
  exact ⟨⟨a.waits, rfl, a.within_record r⟩, nofun⟩

/-- A run in which tasks that have finished found what their records' audits find. -/
structure Agrees (a : Audit) (j : Judge) (records : Assoc Record) (run : Run σ RecordFindings) :
    Prop where
  ordered : run.Ordered
  length : run.tasks.length = records.values.length
  finished : ∀ (t : TaskId) (result : Except Interrupt RecordFindings),
    run.tasks[t]? = some (.finished result) →
      ∃ r, records.values[t]? = some r ∧ result = (a.findings j r).mapError .fault

theorem agrees_applyAll (keeps : m.Keeps j.replies clean) (rest : w.AtRest clean) (a : Audit)
    (records : Assoc Record) {events : List (Event σ)} (orderly : ∀ e ∈ events, e.Orderly clean) :
    Agrees a j records ((a.start w records).applyAll m.toMachine events) := by
  obtain ⟨stance, h⟩ := (start_coherent rest a records).applyAll keeps.machine orderly
  refine ⟨(Run.Ordered.ofPrograms w _).applyAll orderly, ?_, fun t result there =>
    (h.finished there).1⟩
  rw [Run.length_applyAll orderly]
  simp [start, Run.ofPrograms]

namespace Agrees

variable {run : Run σ RecordFindings} {t : TaskId}

theorem gather_of_ok {values : List RecordFindings} (h : run.results = .ok values) :
    gather records run = .ok (.ofList (records.keys.zip values)) := by
  rw [gather, h]
  rfl

theorem gather_of_error {e : Interrupt} (h : run.results = .error e) :
    gather records run = .error e := by
  rw [gather, h]
  rfl

/-- A task that was interrupted was so by the rules of its record. -/
theorem rules_of_error (h : Agrees a j records run) {e : Interrupt}
    (fault : run.tasks[t]? = some (.finished (.error e))) :
    ∃ r f, records.values[t]? = some r ∧ applyRules a.rules r = .error f ∧ e = .fault f := by
  obtain ⟨r, there, result⟩ := h.finished t _ fault
  cases found : a.findings j r with
  | ok findings =>
    rw [found] at result
    cases result
  | error f =>
    rw [found] at result
    cases result
    exact ⟨r, f, there, findings_error_iff.1 found, rfl⟩

/-- A run fails by the rules of a record, and all records that were done before it passed theirs. -/
theorem gather_error (h : Agrees a j records run) {e : Interrupt}
    (failed : gather records run = .error e) :
    ∃ (pre : List TaskId) (t : TaskId) (post : List TaskId) (r : Record) (f : Fault),
      run.order = pre ++ t :: post ∧ records.values[t]? = some r ∧ applyRules a.rules r = .error f ∧
        e = .fault f ∧ ∀ u ∈ pre, ∀ r', records.values[u]? = some r' →
          ∃ rules, applyRules a.rules r' = .ok rules := by
  rcases Run.results_cases h.ordered with ⟨values, -, ok⟩ |
    ⟨pre, t, post, e', order, fault, oks, e_eq⟩
  · rw [gather_of_ok ok] at failed
    cases failed
  · rw [gather_of_error e_eq] at failed
    cases failed
    obtain ⟨r, f, there, fails, rfl⟩ := h.rules_of_error fault
    refine ⟨pre, t, post, r, f, order, there, fails, rfl, fun u mem r' there' => ?_⟩
    obtain ⟨findings, passed⟩ := oks u mem
    obtain ⟨r'', there'', result⟩ := h.finished u _ passed
    obtain rfl := Option.some.inj (there'.symm.trans there'')
    cases applied : applyRules a.rules r' with
    | ok rules => exact ⟨rules, rfl⟩
    | error f' =>
      rw [findings_error_iff.2 applied] at result
      cases result

theorem results_eq (h : Agrees a j records run) (finished : run.isFinished = true) :
    run.tasks.filterMap TaskState.result? = records.values.map fun r =>
      (a.findings j r).mapError .fault := by
  have all : run.tasks.map TaskState.result? =
      records.values.map fun r => some ((a.findings j r).mapError .fault) := by
    refine List.ext_getElem? fun t => ?_
    rw [List.getElem?_map, List.getElem?_map]
    rcases Nat.lt_or_ge t run.tasks.length with lt | beyond
    · obtain ⟨result, there⟩ := Run.exists_result finished lt
      obtain ⟨r, there', rfl⟩ := h.finished t result there
      rw [there, there']
      rfl
    · rw [List.getElem?_eq_none beyond, List.getElem?_eq_none (h.length ▸ beyond)]
      rfl
  calc run.tasks.filterMap TaskState.result?
      = (run.tasks.map TaskState.result?).filterMap id := by rw [List.filterMap_map]; rfl
    _ = records.values.map fun r => (a.findings j r).mapError .fault := by
      rw [all, List.filterMap_map, ← List.filterMap_eq_map]
      rfl

theorem gather_fails (h : Agrees a j records run) (finished : run.isFinished = true)
    (mem : r ∈ records.values) {f : Fault} (fails : applyRules a.rules r = .error f) :
    ∃ e, gather records run = .error e := by
  rcases Run.results_cases h.ordered with ⟨values, all, -⟩ | ⟨pre, t, post, e, -, -, -, e_eq⟩
  · have failed : .error (.fault f) ∈ values.map (.ok : RecordFindings →
        Except Interrupt RecordFindings) := by
      rw [← all, h.results_eq finished, List.mem_map]
      exact ⟨r, mem, by rw [findings_error_iff.2 fails]; rfl⟩
    obtain ⟨findings, -, absurd⟩ := List.mem_map.1 failed
    cases absurd
  · exact ⟨e, gather_of_error e_eq⟩

theorem gather_ok (h : Agrees a j records run) (finished : run.isFinished = true)
    (applied : ∀ r ∈ records.values, ∃ rules, applyRules a.rules r = .ok rules) :
    ∃ result, gather records run = .ok result ∧
      result.entries.map (fun e => (e.1, (.ok e.2 : Except Interrupt RecordFindings))) =
        records.entries.map fun e => (e.1, (a.findings j e.2).mapError .fault) := by
  rcases Run.results_cases h.ordered with ⟨values, all, ok⟩ | ⟨pre, t, post, e, -, fault, -, -⟩
  · rw [h.results_eq finished] at all
    have size : records.keys.length = values.length := by
      have := congrArg List.length all
      simpa [Assoc.keys, Assoc.values] using this
    have distinct : ((records.keys.zip values).map Prod.fst).Nodup := by
      rw [List.map_fst_zip (Nat.le_of_eq size)]
      exact records.nodup_keys
    refine ⟨_, gather_of_ok ok, ?_⟩
    rw [Assoc.entries_ofList distinct]
    calc (records.keys.zip values).map (fun e => (e.1, (.ok e.2 : Except Interrupt RecordFindings)))
        = records.keys.zip (values.map .ok) := (List.zip_map_right).symm
      _ = records.keys.zip (records.values.map fun r => (a.findings j r).mapError .fault) := by
        rw [all]
      _ = records.entries.map fun e => (e.1, (a.findings j e.2).mapError .fault) := by
        rw [Assoc.keys, Assoc.values, List.map_map, List.zip_map']
        rfl
  · obtain ⟨r, f, there, fails, -⟩ := h.rules_of_error fault
    obtain ⟨rules, passes⟩ := applied r (List.mem_of_getElem? there)
    rw [fails] at passes
    cases passes

end Agrees

theorem start_atOnce {t : TaskId} (there : records.values[t]? = some r) {f : Fault}
    (fails : applyRules a.rules r = .error f) :
    (a.start w records).AtOnce t (.error (.fault f)) := by
  have atOnce : (a.record r).run = .done (.error (.fault f)) := by
    rw [Audit.record, fails]
    rfl
  refine .inl ?_
  simp [start, Run.ofPrograms, there, atOnce]

end Audit

/-! ## The theorem -/

/-- Whatever the order of the tasks' steps is, and whatever the session was used for before: when
all tasks have finished, every record has the findings that it gets alone with a session of its own,
unless the rules of some record fail. Then the audit fails, as it fails for no other reason, and
when tasks start in order it fails by the first such record. And from wherever they have got, the
tasks can finish. -/
theorem audits_side_by_side {σ : Type} {m : Surroundings σ} {j : Judge} {clean : σ → Prop}
    (keeps : m.Keeps j.replies clean) {w : World σ} (rest : w.AtRest clean) (a : Audit)
    (records : Assoc Record) {events : List (Event σ)} (orderly : ∀ e ∈ events, e.Orderly clean) :
    let run := (a.start w records).applyAll m.toMachine events
    let alone := fun (t : TaskId) (r : Record) => (World.empty.runAlone m t (a.record r).run).1
    (run.isFinished = true → (∀ r ∈ records.values, ∃ rules, applyRules a.rules r = .ok rules) →
      ∃ result, Audit.gather records run = .ok result ∧ ∀ t,
        result.entries.map (fun e => (e.1, some (.ok e.2))) = records.entries.map fun e =>
          (e.1, alone t e.2)) ∧
    (run.isFinished = true → ((∃ e, Audit.gather records run = .error e) ↔
      ∃ r ∈ records.values, ∃ f, applyRules a.rules r = .error f)) ∧
    (∀ e, Audit.gather records run = .error e →
      ∃ r ∈ records.values, ∃ f, applyRules a.rules r = .error f ∧ e = .fault f) ∧
    (StartsInOrder events → ∀ e, Audit.gather records run = .error e →
      ∃ before r after f, records.values = before ++ r :: after ∧ applyRules a.rules r = .error f ∧
        e = .fault f ∧ ∀ r' ∈ before, ∃ rules, applyRules a.rules r' = .ok rules) ∧
    (run.complete m a.waits).isFinished = true ∧
    run.Leads m.toMachine clean (run.complete m a.waits) := by
  intro run alone
  have agrees : Audit.Agrees a j records run := Audit.agrees_applyAll keeps rest a records orderly
  have alone_eq : ∀ t r, alone t r = some ((a.findings j r).mapError .fault) := fun t r =>
    Audit.record_alone keeps t
  refine ⟨fun finished applied => ?_, fun finished => ⟨?_, ?_⟩, fun e failed => ?_,
    fun starts e failed => ?_, ?_, Run.leads_complete keeps a.waits run⟩
  · obtain ⟨result, ok, entries⟩ := agrees.gather_ok finished applied
    refine ⟨result, ok, fun t => ?_⟩
    have found := congrArg (List.map (Prod.map id some)) entries
    rw [List.map_map, List.map_map] at found
    simp only [alone_eq]
    exact found
  · rintro ⟨e, failed⟩
    obtain ⟨-, t, -, r, f, -, there, fails, -, -⟩ := agrees.gather_error failed
    exact ⟨r, List.mem_of_getElem? there, f, fails⟩
  · rintro ⟨r, mem, f, fails⟩
    exact agrees.gather_fails finished mem fails
  · obtain ⟨-, t, -, r, f, -, there, fails, rfl, -⟩ := agrees.gather_error failed
    exact ⟨r, List.mem_of_getElem? there, f, fails, rfl⟩
  · obtain ⟨pre, t, post, r, f, order, there, fails, rfl, passed⟩ := agrees.gather_error failed
    obtain ⟨lt, rfl⟩ := List.getElem?_eq_some_iff.1 there
    refine ⟨records.values.take t, _, records.values.drop (t + 1), f, ?_, fails, rfl,
      fun r' mem => ?_⟩
    · rw [← List.drop_eq_getElem_cons lt, List.take_append_drop]
    · obtain ⟨i, lt', there'⟩ := List.mem_take_iff_getElem.1 mem
      have there' := (List.getElem?_eq_some_iff (l := records.values)).2 ⟨_, there'⟩
      cases applied : applyRules a.rules r' with
      | ok rules => exact ⟨rules, rfl⟩
      | error f' =>
        -- a record whose rules fail is done with its first step, so before the one that failed
        have earlier : i ∈ pre := Run.atOnce_before (.ofPrograms w _) rfl orderly starts order
          (Nat.lt_of_lt_of_le lt' (Nat.min_le_left _ _)) (Audit.start_atOnce there' applied)
        obtain ⟨rules, passes⟩ := passed i earlier r' there'
        rw [applied] at passes
        cases passes
  · obtain ⟨stance, h⟩ := (Audit.start_coherent rest a records).applyAll keeps.machine orderly
    exact h.complete_finished keeps (fun t result st ends => ends.2)
      (Run.applyAll_left (Audit.start_left a w records) orderly)

/-- Two records that are audited side by side, from the creation of the session on. -/
theorem audits_side_by_side_pair :
    let m : Surroundings AssertionStack := .fresh AssertionStack.backend .empty false
    let record := fun (text : String) => Assoc.ofList [("amount", Value.text text)]
    let a : Audit :=
      ⟨[], [], [⟨"amount", "Amount", .number, [⟨"positive", .gt, .int 0, none⟩]⟩], .standard, none⟩
    let records : Assoc Record := .ofList [("first", record "1.5"), ("second", record "-2")]
    ∃ result, a.records m records = .ok result ∧
      result.entries.map (fun e => (e.1, some (.ok e.2))) =
        records.entries.map fun e => (e.1, (World.empty.runAlone m 0 (a.record e.2).run).1) := by
  intro m record a records
  have keeps : m.Keeps AssertionStack.decider.judge.replies (AssertionStack.view · = [[]]) :=
    AssertionStack.keeps_fresh false
  have start : (World.empty : World AssertionStack).AtRest (AssertionStack.view · = [[]]) :=
    .empty _
  have before : ∀ e ∈ ([] : List (Event AssertionStack)),
    e.Orderly (AssertionStack.view · = [[]]) := nofun
  obtain ⟨-, -, -, -, finished, events, orderly, -, same⟩ :=
    audits_side_by_side keeps start a records before
  obtain ⟨findings, -⟩ := audits_side_by_side keeps start a records orderly
  change (a.start .empty records).complete m a.waits =
    (a.start .empty records).applyAll m.toMachine events at same
  rw [← same] at findings
  have applied : ∀ r ∈ records.values, ∃ rules, applyRules a.rules r = .ok rules :=
    List.forall_mem_cons.2 ⟨⟨[], rfl⟩, List.forall_mem_singleton.2 ⟨[], rfl⟩⟩
  obtain ⟨result, ok, entries⟩ := findings finished applied
  exact ⟨result, ok, entries 0⟩

end RecordAudit
