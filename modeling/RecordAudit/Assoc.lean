/-!
# Ordered maps

A map from names to values that keeps its names in the order of their first insertion. Inserting
under a name that is there replaces the value and leaves the name in its place.
-/

namespace RecordAudit

variable {α β : Type}

/-- Inserts in place, or at the end. -/
def upsert (key : String) (value : α) : List (String × α) → List (String × α)
  | [] => [(key, value)]
  | entry :: rest => if entry.1 = key then (key, value) :: rest else entry :: upsert key value rest

theorem mem_keys_upsert {key : String} {value : α} {entries : List (String × α)} {k : String} :
    k ∈ (upsert key value entries).map Prod.fst ↔ k = key ∨ k ∈ entries.map Prod.fst := by
  induction entries with
  | nil => simp [upsert]
  | cons entry rest ih =>
    by_cases h : entry.1 = key
    · simp [upsert, h]
    · simp only [upsert, h, if_false, List.map_cons, List.mem_cons, ih]
      constructor
      · rintro (h | h | h) <;> simp [h]
      · rintro (h | h | h) <;> simp [h]

theorem nodup_keys_upsert {key : String} {value : α} {entries : List (String × α)}
    (h : (entries.map Prod.fst).Nodup) : ((upsert key value entries).map Prod.fst).Nodup := by
  induction entries with
  | nil => simp [upsert]
  | cons entry rest ih =>
    simp only [List.map_cons, List.nodup_cons] at h
    by_cases hk : entry.1 = key
    · simp only [upsert, hk, if_true, List.map_cons, List.nodup_cons]
      exact ⟨hk ▸ h.1, h.2⟩
    · simp only [upsert, hk, if_false, List.map_cons, List.nodup_cons]
      refine ⟨fun hm => ?_, ih h.2⟩
      rcases mem_keys_upsert.1 hm with hm | hm
      · exact hk hm
      · exact h.1 hm

/-- A map whose names are distinct and ordered. -/
structure Assoc (α : Type) where
  entries : List (String × α)
  nodup_keys : (entries.map Prod.fst).Nodup

namespace Assoc

def empty : Assoc α := ⟨[], by simp⟩

instance : Inhabited (Assoc α) := ⟨empty⟩

def keys (m : Assoc α) : List String := m.entries.map Prod.fst

def values (m : Assoc α) : List α := m.entries.map Prod.snd

def insert (m : Assoc α) (key : String) (value : α) : Assoc α :=
  ⟨upsert key value m.entries, nodup_keys_upsert m.nodup_keys⟩

/-- The map of a list of entries; of entries under one name the last value counts. -/
def ofList (entries : List (String × α)) : Assoc α :=
  entries.foldl (fun m e => m.insert e.1 e.2) empty

def get? (m : Assoc α) (key : String) : Option α := m.entries.lookup key

def isEmpty (m : Assoc α) : Bool := m.entries.isEmpty

def map (f : α → β) (m : Assoc α) : Assoc β :=
  ⟨m.entries.map fun e => (e.1, f e.2), by
    simpa [List.map_map, Function.comp_def] using m.nodup_keys⟩

def mapWithKey (f : String → α → β) (m : Assoc α) : Assoc β :=
  ⟨m.entries.map fun e => (e.1, f e.1 e.2), by
    simpa [List.map_map, Function.comp_def] using m.nodup_keys⟩

def filter (p : String → α → Bool) (m : Assoc α) : Assoc α :=
  ⟨m.entries.filter fun e => p e.1 e.2,
    List.Nodup.sublist (List.Sublist.map _ List.filter_sublist) m.nodup_keys⟩

@[simp] theorem keys_map (f : α → β) (m : Assoc α) : (m.map f).keys = m.keys := by
  simp [keys, map, List.map_map, Function.comp_def]

@[simp] theorem keys_mapWithKey (f : String → α → β) (m : Assoc α) :
    (m.mapWithKey f).keys = m.keys := by
  simp [keys, mapWithKey, List.map_map, Function.comp_def]

theorem mem_keys_insert {m : Assoc α} {key k : String} {value : α} :
    k ∈ (m.insert key value).keys ↔ k = key ∨ k ∈ m.keys := mem_keys_upsert

end Assoc

end RecordAudit
