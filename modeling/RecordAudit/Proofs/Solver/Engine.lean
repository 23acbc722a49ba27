import RecordAudit.Proofs.Session.Settling
import RecordAudit.Proofs.Solver.Decider

/-!
# Engines that keep a stack of assertions

What is assumed of an engine's commands: they do to the frames of its assertions what they say, and
a check leaves them alone. Then a scope on the engine finds what was added in it, whatever happened
before, and nothing else. So an engine that responds as a decider does to what is live answers the
calls of every scope as the decider's judge.
-/

namespace RecordAudit

theorem modifyHead_append_nil {α : Type} (fs : List (List α)) : fs.modifyHead (· ++ []) = fs := by
  cases fs <;> simp

theorem flatMap_flatten {α β : Type} (f : α → List β) (fs : List (List α)) :
    fs.flatten.flatMap f = (fs.map (·.flatMap f)).flatten := by
  induction fs with
  | nil => rfl
  | cons g rest ih => simp [ih]

namespace Engine

variable {σ : Type}

theorem respond_eq (e : Engine σ) (milliseconds : Int) (s : σ) :
    e.respond milliseconds s =
      (⟨(e.check milliseconds s).1, e.model (e.check milliseconds s).2,
        e.reason (e.check milliseconds s).2⟩, (e.check milliseconds s).2) := rfl

/-- The engine keeps frames of assertions, newest first. The last one holds the assertions that are
in no frame, and it is never popped. -/
structure IsStack (e : Engine σ) (frames : σ → List (List (Expr .bool))) : Prop where
  initial : frames e.initial = [[]]
  assert : ∀ a s, frames (e.assert a s) = (frames s).modifyHead (· ++ [a])
  push : ∀ s, frames (e.push s) = [] :: frames s
  pop : ∀ s f g rest, frames s = f :: g :: rest → (e.pop s).1 = .ok () ∧
    frames (e.pop s).2 = g :: rest
  pop_base : ∀ s f, frames s = [f] → (e.pop s).1 = .error .noOpenFrame ∧ frames (e.pop s).2 = [f]
  reset : ∀ s, frames (e.reset s) = [[]]
  depth : ∀ s, (frames s).length = e.depth s + 1
  check : ∀ milliseconds s, frames (e.check milliseconds s).2 = frames s

/-- The engine responds as a decider does to the assertions in its frames. -/
def Follows (e : Engine σ) (frames : σ → List (List (Expr .bool))) (d : Decider) : Prop :=
  ∀ milliseconds s, (e.respond milliseconds s).1 = d milliseconds (frames s).reverse.flatten

/-- The frames hold what operands assert. -/
def Shows (frames : σ → List (List (Expr .bool))) (s : σ) (fs : List (List Operand)) : Prop :=
  frames s = fs.map (·.flatMap assertedBy)

namespace IsStack

variable {e : Engine σ} {frames : σ → List (List (Expr .bool))} {d : Decider} {s : σ}
  {fs : List (List Operand)} (stack : e.IsStack frames)
include stack

/-! ## Calls -/

/-- Adding asserts items up to the first that is no assertion. -/
theorem frames_addAll (items : List Operand) (s : σ) :
    (e.addAll items s).1 = items.forM (fun o => o.toBool.map fun _ => ()) ∧
      frames (e.addAll items s).2 = (frames s).modifyHead (· ++ assertedBy.go items) := by
  induction items generalizing s with
  | nil => exact ⟨rfl, (modifyHead_append_nil (frames s)).symm⟩
  | cons o rest ih =>
    have first : (o :: rest).forM (fun o => o.toBool.map fun _ => ()) =
        (do o.toBool.map fun _ => (); rest.forM fun o => o.toBool.map fun _ => ()) := rfl
    rw [first, addAll, assertedBy.go]
    cases taken : o.toBool with
    | error fault => exact ⟨rfl, (modifyHead_append_nil (frames s)).symm⟩
    | ok a =>
      obtain ⟨reply, added⟩ := ih (e.assert a s)
      refine ⟨reply, ?_⟩
      rw [added, stack.assert]
      cases frames s <;> simp

theorem exists_frame (s : σ) : ∃ f rest, frames s = f :: rest := by
  have length := stack.depth s
  cases open_ : frames s with
  | nil => simp [open_] at length
  | cons f rest => exact ⟨f, rest, rfl⟩

/-! ## Sequences of calls -/

/-- A call does to the frames what it means, as long as no pop goes too far. -/
theorem shows_respond (shows : Shows frames s fs) (c : Call) (deep : c = .pop → 2 ≤ fs.length) :
    Shows frames (e.backend.respond c s).2 (c.onFrames fs) := by
  cases c with
  | push => exact (stack.push s).trans (congrArg _ shows)
  | pop =>
    match fs, deep rfl with
    | f :: g :: rest, _ => exact (stack.pop s _ _ _ shows).2
  | add operand =>
    refine (stack.frames_addAll operand.items s).2.trans ?_
    obtain ⟨f, rest, there⟩ := stack.exists_frame s
    rw [shows]
    cases fs with
    | nil => cases there.symm.trans shows
    | cons f rest => simp [Call.onFrames, assertedBy]
  | check timeout => exact (stack.check _ s).trans shows

/-- Balanced calls do what they mean within a frame. -/
theorem shows_after_balanced {f : List Operand} (shows : Shows frames s (f :: fs))
    {calls : List Call} (balanced : Balanced calls) :
    Shows frames (e.backend.after calls s) (framesFrom (f :: fs) calls) := by
  induction balanced generalizing s f fs with
  | nil => exact shows
  | add a _ ih => exact ih (stack.shows_respond shows (.add a) nofun)
  | check τ _ ih => exact ih (stack.shows_respond shows (.check τ) nofun)
  | @frame body rest hBody _ ihBody ihRest =>
    have inner := ihBody (stack.shows_respond shows .push nofun)
    obtain ⟨added, left⟩ := hBody.framesFrom [] (f :: fs)
    rw [left] at inner
    have outer := ihRest (stack.shows_respond inner .pop fun _ => by simp)
    simpa [Call.onFrames, left] using outer

/-- So do calls that leave frames open. -/
theorem shows_after_opened {f : List Operand} (shows : Shows frames s (f :: fs)) {n : Nat}
    {calls : List Call} (opened : Opened n calls) :
    Shows frames (e.backend.after calls s) (framesFrom (f :: fs) calls) := by
  induction opened with
  | none => exact shows
  | frame _ inner ih =>
    rw [Backend.after_append, framesFrom_append]
    exact stack.shows_after_balanced (stack.shows_respond ih .push nofun) inner

theorem shows_after_block {f : List Operand} (shows : Shows frames s (f :: fs)) {calls : List Call}
    (isBlock : IsBlock calls) : Shows frames (e.backend.after calls s) (f :: fs) := by
  obtain ⟨body, balanced, rfl⟩ := isBlock
  have whole : Balanced (.push :: (body ++ [.pop])) := .frame balanced .nil
  have after := stack.shows_after_balanced shows whole
  rwa [IsBlock.framesFrom ⟨body, balanced, rfl⟩] at after

/-! ## Scopes -/

section Follows

variable (follows : e.Follows frames d)
include follows

/-- When nothing is asserted, a scope gets the replies of the decider's judge. -/
theorem reply_allowed (clean : frames s = [[]]) {n : Nat} {calls : List Call}
    (opened : Opened n calls) {c : Call} (first : n = 0 → c = .push) :
    d.judge.replies calls c (e.backend.respond c (e.backend.after calls s)).1 := by
  have start : Shows frames s [[]] := clean
  have shows := stack.shows_after_opened start opened
  cases c with
  | push => rfl
  | pop =>
    have length := opened.length_framesFrom [[]]
    have deep : n ≠ 0 := fun zero => nomatch first zero
    rw [List.length_singleton] at length
    match there : framesFrom [[]] calls with
    | [] | [f] =>
      simp only [there, List.length_nil, List.length_singleton] at length
      omega
    | f :: g :: rest =>
      rw [there] at shows
      exact (stack.pop _ _ _ _ shows).1
  | add a => exact (stack.frames_addAll _ _).1
  | check timeout =>
    refine (congrArg Response.answer (follows timeout.milliseconds _)).trans ?_
    have live : (frames (e.backend.after calls s)).reverse.flatten =
        (liveAfter calls).flatMap assertedBy := by
      rw [liveAfter, flatMap_flatten, List.map_reverse, framesAfter, ← shows]
    rw [live]
    rfl

/-- What keeps its sessions on the engine keeps the judge's replies. -/
theorem keeps_fresh (atOnce : Bool) :
    (Surroundings.fresh e.backend e.initial atOnce).Keeps d.judge.replies (frames · = [[]]) where
  machine :=
    { reply := fun clean opened first => stack.reply_allowed follows clean opened first
      block := fun {calls state} clean isBlock =>
        have empty : Shows frames state [[]] := clean
        stack.shows_after_block empty isBlock
      create := fun {c outcome} created => by
        cases atOnce with
        | false => simp [Surroundings.fresh] at created
        | true =>
          exact ⟨e.initial, stack.initial, by simpa [Surroundings.fresh, eq_comm] using created⟩ }
  deliver := fun _ => ⟨e.initial, stack.initial, rfl⟩

end Follows

end IsStack

end Engine

end RecordAudit
