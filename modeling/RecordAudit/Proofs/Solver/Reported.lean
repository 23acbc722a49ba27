import Mathlib.Data.List.Nodup
import Mathlib.Data.List.Perm.Basic
import RecordAudit.Solver.Model

/-!
# What models report

A model says about a name what is reported of an entry with that name, and nothing about other
names. It is there when every entry can be reported.
-/

namespace RecordAudit

/-! ## Results -/

section Except

variable {ε α β : Type} {f : α → Except ε β} {as : List α} {bs : List β}

@[simp] theorem ok_bind (a : α) (f : α → Except ε β) : (Except.ok a >>= f) = f a := rfl

@[simp] theorem error_bind (e : ε) (f : α → Except ε β) : (Except.error e >>= f) = .error e := rfl

theorem mapM_eq_ok_iff : as.mapM f = .ok bs ↔ List.Forall₂ (fun a b => f a = .ok b) as bs := by
  induction as generalizing bs with
  | nil => cases bs <;> simp [pure, Except.pure]
  | cons a rest ih =>
    rw [List.mapM_cons]
    cases first : f a with
    | error e => cases bs <;> simp [first]
    | ok b =>
      cases others : rest.mapM f with
      | error e => cases bs <;> simp [← ih, first, others]
      | ok bs' => cases bs <;> simp [pure, Except.pure, ← ih, first, others]

theorem exists_mapM_ok_iff : (∃ bs, as.mapM f = .ok bs) ↔ ∀ a ∈ as, ∃ b, f a = .ok b := by
  induction as with
  | nil => simp [pure, Except.pure]
  | cons a rest ih =>
    rw [List.forall_mem_cons, ← ih, List.mapM_cons]
    cases f a with
    | error e => simp
    | ok b => cases rest.mapM f <;> simp [pure, Except.pure]

/-- The first fault ends a list of computations. -/
theorem mapM_eq_error_iff {e : ε} :
    as.mapM f = .error e ↔
      ∃ before a after, as = before ++ a :: after ∧ (∀ x ∈ before, ∃ b, f x = .ok b) ∧
        f a = .error e := by
  induction as with
  | nil => simp [pure, Except.pure]
  | cons x rest ih =>
    rw [List.mapM_cons]
    constructor
    · intro h
      cases first : f x with
      | error e' =>
        rw [first, error_bind] at h
        cases h
        exact ⟨[], x, rest, rfl, nofun, first⟩
      | ok b =>
        cases others : rest.mapM f with
        | ok bs =>
          rw [first, others] at h
          cases h
        | error e' =>
          rw [first, others] at h
          cases h
          obtain ⟨before, a, after, rfl, calm, raised⟩ := ih.1 others
          refine ⟨x :: before, a, after, rfl, fun y mem => ?_, raised⟩
          rcases List.mem_cons.1 mem with rfl | mem
          · exact ⟨b, first⟩
          · exact calm y mem
    · rintro ⟨before, a, after, split, calm, raised⟩
      cases before with
      | nil =>
        obtain ⟨rfl, rfl⟩ := List.cons.inj split
        rw [raised, error_bind]
      | cons y before =>
        obtain ⟨rfl, rfl⟩ := List.cons.inj split
        obtain ⟨b, first⟩ := calm x (by simp)
        rw [first, ok_bind, ih.2 ⟨before, a, after, rfl, fun y mem => calm y (by simp [mem]),
          raised⟩, error_bind]

theorem except_bind_eq_ok_iff {x : Except ε α} {b : β} :
    (x >>= f) = .ok b ↔ ∃ a, x = .ok a ∧ f a = .ok b := by
  cases x <;> simp

theorem except_map_eq_ok_iff {x : Except ε α} {g : α → β} {b : β} :
    g <$> x = .ok b ↔ ∃ a, x = .ok a ∧ g a = b := by
  cases x <;> simp

theorem except_map_eq_error_iff {x : Except ε α} {g : α → β} {e : ε} :
    g <$> x = .error e ↔ x = .error e := by
  cases x <;> simp

theorem isOk_iff {x : Except ε α} : x.isOk = true ↔ ∃ a, x = .ok a := by
  cases x <;> simp [Except.isOk, Except.toBool]

end Except

theorem exists_of_forall₂ {α β : Type} {R : α → β → Prop} {as : List α} {bs : List β}
    (pairs : List.Forall₂ R as bs) {b : β} (mem : b ∈ bs) : ∃ a ∈ as, R a b := by
  induction pairs with
  | nil => cases mem
  | cons pair _ ih =>
    rcases List.mem_cons.1 mem with rfl | mem
    · exact ⟨_, List.mem_cons_self, pair⟩
    · obtain ⟨a, inRest, result⟩ := ih mem
      exact ⟨a, List.mem_cons_of_mem _ inRest, result⟩

/-! ## Entries of maps -/

theorem Assoc.get?_eq_some_iff {α : Type} {m : Assoc α} {name : String} {value : α} :
    m.get? name = some value ↔ (name, value) ∈ m.entries := by
  have found : ∀ entries : List (String × α), (entries.map Prod.fst).Nodup →
      (entries.lookup name = some value ↔ (name, value) ∈ entries) := by
    intro entries distinct
    induction entries with
    | nil => simp
    | cons entry rest ih =>
      obtain ⟨other, value'⟩ := entry
      rw [List.map_cons, List.nodup_cons] at distinct
      rw [List.lookup_cons, List.mem_cons, Prod.mk.injEq]
      by_cases same : name = other
      · subst same
        have absent : (name, value) ∉ rest := fun mem => distinct.1 (List.mem_map.2 ⟨_, mem, rfl⟩)
        simp [absent, eq_comm]
      · simp [same, beq_eq_false_iff_ne.2 same, ih distinct.2]
  exact found m.entries m.nodup_keys

theorem Assoc.mem_of_mem_ofList {α : Type} {entries : List (String × α)} {entry : String × α}
    (mem : entry ∈ (Assoc.ofList entries).entries) : entry ∈ entries := by
  have inserted : ∀ (key : String) (value : α) (es : List (String × α)),
      entry ∈ upsert key value es → entry = (key, value) ∨ entry ∈ es := by
    intro key value es
    induction es with
    | nil => simp [upsert]
    | cons e rest ih =>
      rw [upsert]
      split
      · simp only [List.mem_cons]
        tauto
      · simp only [List.mem_cons]
        tauto
  have folded : ∀ (es : List (String × α)) (m : Assoc α),
      entry ∈ (es.foldl (fun m e => m.insert e.1 e.2) m).entries → entry ∈ es ∨
          entry ∈ m.entries := by
    intro es
    induction es with
    | nil => exact fun m there => .inr there
    | cons e rest ih =>
      intro m there
      rcases ih _ there with inRest | inFirst
      · exact .inl (List.mem_cons_of_mem _ inRest)
      · rcases inserted e.1 e.2 m.entries inFirst with rfl | before
        · exact .inl (by simp)
        · exact .inr before
  exact (folded entries .empty mem).resolve_right (by simp [Assoc.empty])

theorem upsert_of_not_mem {α : Type} {key : String} {value : α} {entries : List (String × α)}
    (h : key ∉ entries.map Prod.fst) : upsert key value entries = entries ++ [(key, value)] := by
  induction entries with
  | nil => rfl
  | cons entry rest ih =>
    rw [List.map_cons, List.mem_cons, not_or] at h
    rw [upsert, if_neg (Ne.symm h.1), ih h.2]
    rfl

theorem Assoc.entries_ofList {α : Type} {entries : List (String × α)}
    (h : (entries.map Prod.fst).Nodup) :
    (Assoc.ofList entries).entries = entries := by
  have inserted : ∀ (entries : List (String × α)) (m : Assoc α),
      ((m.entries ++ entries).map Prod.fst).Nodup →
        (entries.foldl (fun m e => m.insert e.1 e.2) m).entries = m.entries ++ entries := by
    intro entries
    induction entries with
    | nil => intro m _; exact (List.append_nil _).symm
    | cons e rest ih =>
      intro m distinct
      have fresh : e.1 ∉ m.entries.map Prod.fst := by
        rw [List.map_append, List.map_cons, List.nodup_middle, List.nodup_cons,
          List.mem_append] at distinct
        exact fun mem => distinct.1 (.inl mem)
      have grown : (m.insert e.1 e.2).entries = m.entries ++ [e] := upsert_of_not_mem fresh
      rw [List.foldl_cons, ih _ (by rwa [grown, List.append_assoc]), grown, List.append_assoc]
      rfl
  exact inserted entries .empty h

theorem Assoc.mem_keys_ofList {α : Type} {entries : List (String × α)} {name : String} :
    name ∈ (Assoc.ofList entries).keys ↔ name ∈ entries.map Prod.fst := by
  have inserted : ∀ (entries : List (String × α)) (m : Assoc α),
      name ∈ (entries.foldl (fun m e => m.insert e.1 e.2) m).keys ↔
          name ∈ entries.map Prod.fst ∨ name ∈ m.keys := by
    intro entries
    induction entries with
    | nil => simp
    | cons e rest ih =>
      intro m
      rw [List.foldl_cons, ih, Assoc.mem_keys_insert, List.map_cons, List.mem_cons]
      tauto
  rw [ofList, inserted]
  simp [empty, keys]

/-! ## Models -/

namespace Model

variable {entries : List ModelEntry} {model : Model}

theorem ofEntries_eq (entries : List ModelEntry) : ofEntries entries =
    Assoc.ofList <$> entries.mapM fun e => (e.name, ·) <$> e.reported := rfl

theorem exists_ofEntries_iff :
    (∃ model, ofEntries entries = .ok model) ↔ ∀ e ∈ entries, ∃ value, e.reported = .ok value := by
  simp [ofEntries_eq, except_map_eq_ok_iff, exists_mapM_ok_iff]

theorem exists_reported (made : ofEntries entries = .ok model) :
    ∃ reports, model = .ofList reports ∧
      List.Forall₂ (fun e report => report.1 = e.name ∧ e.reported = .ok report.2)
        entries reports := by
  rw [ofEntries_eq] at made
  obtain ⟨reports, reported, rfl⟩ := except_map_eq_ok_iff.1 made
  refine ⟨reports, rfl, (mapM_eq_ok_iff.1 reported).imp fun e report same => ?_⟩
  obtain ⟨value, said, rfl⟩ := except_map_eq_ok_iff.1 same
  exact ⟨rfl, said⟩

/-- What a model says is what is reported of an entry. -/
theorem exists_entry_of_get? (made : ofEntries entries = .ok model) {name : String} {value : Value}
    (there : model.get? name = some value) :
    ∃ e ∈ entries, e.name = name ∧ e.reported = .ok value := by
  obtain ⟨reports, rfl, pairs⟩ := exists_reported made
  obtain ⟨e, mem, same, reported⟩ :=
    exists_of_forall₂ pairs (Assoc.mem_of_mem_ofList (Assoc.get?_eq_some_iff.1 there))
  exact ⟨e, mem, same.symm, reported⟩

theorem exists_get?_ofEntries (made : ofEntries entries = .ok model) {e : ModelEntry}
    (mem : e ∈ entries) :
    ∃ value, model.get? e.name = some value := by
  obtain ⟨reports, rfl, pairs⟩ := exists_reported made
  obtain ⟨report, inReports, same, -⟩ := exists_of_forall₂ pairs.flip mem
  have named : e.name ∈ (Assoc.ofList reports).keys :=
    Assoc.mem_keys_ofList.2 (List.mem_map.2 ⟨report, inReports, same⟩)
  obtain ⟨⟨_, value⟩, there, rfl⟩ := List.mem_map.1 named
  exact ⟨value, Assoc.get?_eq_some_iff.2 there⟩

end Model

end RecordAudit
