import Mathlib.Logic.Function.Basic
import RecordAudit.Session.Lock

/-!
# Locks serve the tasks that ask

What a lock has to do with tasks that hold it or wait for it. A task may have been handed the lock
without having noticed: it still waits for it, and is the holder all the same.
-/

namespace RecordAudit

namespace Lock

/-- A lock that one task at a time holds, and that every other task which wants it waits for in its
queue. -/
structure Serves (l : Lock) (holds awaits : TaskId → Bool) : Prop where
  holder : ∀ t, l.holder = some t → holds t ∨ awaits t
  held : ∀ t, holds t → l.holder = some t
  queued : ∀ t ∈ l.waiting, awaits t
  served : ∀ t, awaits t → l.holder = some t ∨ t ∈ l.waiting
  apart : ∀ t ∈ l.waiting, l.holder ≠ some t
  nodup : l.waiting.Nodup
  idle : l.holder = none → l.waiting = []

namespace Serves

variable {l : Lock} {holds awaits : TaskId → Bool} {t : TaskId}

theorem free (loop : Nat) (holds awaits : TaskId → Bool) (hh : ∀ t, holds t = false)
    (ha : ∀ t, awaits t = false) : (Lock.free loop).Serves holds awaits where
  holder := by simp [Lock.free]
  held := by simp [hh]
  queued := by simp [Lock.free]
  served := by simp [ha]
  apart := by simp [Lock.free]
  nodup := by simp [Lock.free]
  idle := by simp [Lock.free]

/-- Who is handed a lock without having to wait is its holder, and has still to notice. -/
theorem acquire (h : l.Serves holds awaits) (hh : holds t = false) (ha : awaits t = false) :
    (l.acquire t).Serves holds (Function.update awaits t true) := by
  have free : l.holder ≠ some t ∧ t ∉ l.waiting :=
    ⟨fun e => by simpa [hh, ha] using h.holder t e, fun m => by simpa [ha] using h.queued t m⟩
  cases e : l.holder with
  | none =>
    have none_waits := h.idle e
    constructor <;> simp only [Lock.acquire, e, none_waits]
    · intro u hu; cases hu; simp
    · intro u hu; simpa [e] using h.held u hu
    · simp
    · intro u hu
      by_cases same : u = t
      · simp [same]
      · simpa [e, none_waits] using h.served u (by simpa [same] using hu)
    · simp
    · simp
    · simp
  | some v =>
    constructor <;> simp only [Lock.acquire, e]
    · intro u hu
      have := h.holder u (e.trans hu)
      by_cases same : u = t <;> simp_all
    · intro u hu; simpa [e] using h.held u hu
    · intro u hu
      by_cases same : u = t
      · simp [same]
      · simpa [same] using h.queued u (by simpa [same] using hu)
    · intro u hu
      by_cases same : u = t
      · simp [same]
      · have := h.served u (by simpa [same] using hu)
        simp only [e] at this
        exact this.imp_right fun m => List.mem_append_left _ m
    · intro u hu
      rcases List.mem_append.1 hu with m | m
      · exact e ▸ h.apart u m
      · rw [List.mem_singleton.1 m, ← e]
        exact free.1
    · exact List.nodup_append.2 ⟨h.nodup, by simp, by
        intro u m x hx same
        exact free.2 (by simpa [← List.mem_singleton.1 hx, ← same] using m)⟩
    · simp

theorem granted (h : l.Serves holds awaits) (e : l.holder = some t) :
    l.Serves (Function.update holds t true) (Function.update awaits t false) where
  holder u hu := by
    rw [e] at hu
    cases hu
    simp
  held u hu := by
    by_cases same : u = t
    · rw [same, e]
    · exact h.held u (by simpa [same] using hu)
  queued u hu := by
    have other : u ≠ t := fun same => h.apart u hu (same ▸ e)
    simpa [other] using h.queued u hu
  served u hu := by
    by_cases same : u = t
    · simp [same] at hu
    · exact h.served u (by simpa [same] using hu)
  apart := h.apart
  nodup := h.nodup
  idle := h.idle

theorem release (h : l.Serves holds awaits) (hh : holds t = true) (ha : awaits t = false) :
    l.release.Serves (Function.update holds t false) awaits := by
  have alone : ∀ u, holds u → u = t := fun u hu =>
    Option.some.inj ((h.held u hu).symm.trans (h.held t hh))
  have nodup := h.nodup
  constructor <;> simp only [Lock.release]
  · intro u hu
    exact .inr (h.queued u (List.mem_of_head? hu))
  · intro u hu
    by_cases same : u = t
    · simp [same] at hu
    · exact absurd (alone u (by simpa [same] using hu)) same
  · intro u hu
    exact h.queued u (List.mem_of_mem_tail hu)
  · intro u hu
    have waits : u ∈ l.waiting := (h.served u hu).resolve_left fun e => by
      rw [h.held t hh] at e
      cases e
      simp [ha] at hu
    cases w : l.waiting with
    | nil => simp [w] at waits
    | cons first rest => simpa [w, eq_comm] using waits
  · intro u hu
    cases w : l.waiting with
    | nil => simp
    | cons first rest =>
      rw [w] at hu nodup
      rintro ⟨⟩
      exact (List.nodup_cons.1 nodup).1 hu
  · exact nodup.tail
  · intro e
    rw [List.head?_eq_none_iff.1 e]
    rfl

end Serves

end Lock

end RecordAudit
