import Mathlib.Tactic.Common
import RecordAudit.Solver.Backend

/-!
# Sequences of calls

What one scope does to a backend is a block of calls: a push, calls that leave the frames as they
are, and the pop that matches the push. `framesAfter` says which assertions a sequence of calls
leaves in which frames. A block leaves every frame as it found it, so that what is live inside a
block depends on the block alone.
-/

namespace RecordAudit

/-- Calls that leave open what was open before them, and drop nothing that was added before them. -/
inductive Balanced : List Call → Prop where
  | nil : Balanced []
  | add (a : Operand) {rest} : Balanced rest → Balanced (.add a :: rest)
  | check (timeout : Timeout) {rest} : Balanced rest → Balanced (.check timeout :: rest)
  | frame {body rest} : Balanced body → Balanced rest → Balanced (.push :: (body ++ .pop :: rest))

/-- A push and its matching pop, with calls between them that never drop the frame of the push. -/
def IsBlock (calls : List Call) : Prop := ∃ body, Balanced body ∧ calls = .push :: (body ++ [.pop])

/-- Calls after which so many of the frames that they pushed are open. -/
inductive Opened : Nat → List Call → Prop where
  | none : Opened 0 []
  | frame {n calls body} : Opened n calls → Balanced body → Opened (n + 1) (calls ++ .push :: body)

theorem Balanced.append {a b : List Call} (ha : Balanced a) (hb : Balanced b) :
    Balanced (a ++ b) := by
  induction ha with
  | nil => exact hb
  | add x _ ih => exact .add x ih
  | check τ _ ih => exact .check τ ih
  | frame body _ _ ih => simpa using Balanced.frame body ih

namespace Opened

theorem eq_nil {calls : List Call} (h : Opened 0 calls) : calls = [] := by cases h; rfl

theorem append {n : Nat} {calls body : List Call} (h : Opened (n + 1) calls) (hb : Balanced body) :
    Opened (n + 1) (calls ++ body) := by
  cases h with
  | frame outer inner => simpa using Opened.frame outer (inner.append hb)

theorem push {n : Nat} {calls : List Call} (h : Opened n calls) :
    Opened (n + 1) (calls ++ [.push]) := .frame h .nil

theorem pop {n : Nat} {calls : List Call} (h : Opened (n + 2) calls) :
    Opened (n + 1) (calls ++ [.pop]) := by
  cases h with
  | frame outer inner => simpa using outer.append (.frame inner .nil)

theorem isBlock {calls : List Call} (h : Opened 1 calls) : IsBlock (calls ++ [.pop]) := by
  cases h with
  | frame outer inner =>
    rw [outer.eq_nil]
    exact ⟨_, inner, by simp⟩

end Opened

/-! ## Prefixes -/

/-- Wherever balanced calls within open frames are cut, these frames are still open. -/
theorem Balanced.opened_take {calls : List Call} (h : Balanced calls) {n : Nat}
    {outer a b : List Call} (opened : Opened (n + 1) outer) (e : calls = a ++ b) :
    ∃ k, Opened (k + 1) (outer ++ a) := by
  induction h generalizing n outer a b with
  | nil =>
    obtain ⟨rfl, -⟩ := List.append_eq_nil_iff.1 e.symm
    exact ⟨n, by simpa using opened⟩
  | add x rest ih =>
    cases a with
    | nil => exact ⟨n, by simpa using opened⟩
    | cons c a =>
      obtain ⟨rfl, rest_eq⟩ := List.cons.inj e
      simpa using ih (opened.append (.add x .nil)) rest_eq
  | check τ rest ih =>
    cases a with
    | nil => exact ⟨n, by simpa using opened⟩
    | cons c a =>
      obtain ⟨rfl, rest_eq⟩ := List.cons.inj e
      simpa using ih (opened.append (.check τ .nil)) rest_eq
  | @frame body rest hBody _ ihBody ihRest =>
    cases a with
    | nil => exact ⟨n, by simpa using opened⟩
    | cons c a =>
      obtain ⟨rfl, after⟩ := List.cons.inj e
      rcases List.append_eq_append_iff.1 after with ⟨beyond, rfl, pop_eq⟩ | ⟨left, rfl, -⟩
      · cases beyond with
        | nil => simpa using ihBody (b := []) opened.push (by simp)
        | cons c beyond =>
          obtain ⟨rfl, rest_eq⟩ := List.cons.inj pop_eq
          simpa using ihRest (opened.append (.frame hBody .nil)) rest_eq
      · simpa using ihBody opened.push rfl

theorem Opened.opened_before_check {n : Nat} {calls : List Call} (h : Opened n calls)
    {a b : List Call} {τ : Timeout} (e : calls = a ++ .check τ :: b) : ∃ k, Opened (k + 1) a := by
  induction h generalizing b with
  | none => simp at e
  | @frame n calls body outer inner ih =>
    rcases List.append_eq_append_iff.1 e with ⟨beyond, rfl, push_eq⟩ | ⟨left, rfl, check_eq⟩
    · cases beyond with
      | nil => simp at push_eq
      | cons c beyond =>
        obtain ⟨rfl, body_eq⟩ := List.cons.inj push_eq
        simpa using inner.opened_take outer.push body_eq
    · cases left with
      | nil => simp at check_eq
      | cons c left =>
        obtain ⟨rfl, -⟩ := List.cons.inj check_eq
        exact ih rfl

theorem IsBlock.opened_before_check {calls : List Call} (h : IsBlock calls) {a b : List Call}
    {τ : Timeout} (e : calls = a ++ .check τ :: b) : ∃ k, Opened (k + 1) a := by
  obtain ⟨body, balanced, rfl⟩ := h
  cases a with
  | nil => simp at e
  | cons c a =>
    obtain ⟨rfl, after⟩ := List.cons.inj e
    rcases List.append_eq_append_iff.1 after with ⟨beyond, rfl, pop_eq⟩ | ⟨left, rfl, check_eq⟩
    · rcases beyond with _ | ⟨c, beyond⟩ <;> simp at pop_eq
    · simpa using balanced.opened_take Opened.none.push rfl

/-! ## Frames -/

/-- What a call does to the frames of assertions, newest first, of which the last is never
dropped. -/
def Call.onFrames : Call → List (List Operand) → List (List Operand)
  | .push, fs => [] :: fs
  | .pop, fs => fs.tail
  | .add a, [] => [[a]]
  | .add a, f :: fs => (f ++ [a]) :: fs
  | .check _, fs => fs

/-- The frames after some calls. -/
def framesFrom (fs : List (List Operand)) (calls : List Call) : List (List Operand) :=
  calls.foldl (fun fs c => c.onFrames fs) fs

/-- The frames after some calls to a backend without assertions. -/
def framesAfter (calls : List Call) : List (List Operand) := framesFrom [[]] calls

/-- The assertions that are live after some calls, oldest first. -/
def liveAfter (calls : List Call) : List Operand := (framesAfter calls).reverse.flatten

@[simp] theorem framesFrom_nil (fs : List (List Operand)) : framesFrom fs [] = fs := rfl

@[simp] theorem framesFrom_cons (fs : List (List Operand)) (c : Call) (calls : List Call) :
    framesFrom fs (c :: calls) = framesFrom (c.onFrames fs) calls := rfl

@[simp] theorem framesFrom_append (fs : List (List Operand)) (a b : List Call) :
    framesFrom fs (a ++ b) = framesFrom (framesFrom fs a) b := List.foldl_append

theorem Balanced.framesFrom {calls : List Call} (h : Balanced calls) (f : List Operand)
    (fs : List (List Operand)) : ∃ added, framesFrom (f :: fs) calls = (f ++ added) :: fs := by
  induction h generalizing f fs with
  | nil => exact ⟨[], by simp⟩
  | add a _ ih =>
    obtain ⟨added, h⟩ := ih (f ++ [a]) fs
    exact ⟨a :: added, by simpa [Call.onFrames] using h⟩
  | check τ _ ih => simpa [Call.onFrames] using ih f fs
  | frame _ _ ihBody ihRest =>
    obtain ⟨inner, hInner⟩ := ihBody [] (f :: fs)
    obtain ⟨added, hAdded⟩ := ihRest f fs
    exact ⟨added, by simpa [Call.onFrames, hInner] using hAdded⟩

theorem IsBlock.framesFrom {calls : List Call} (h : IsBlock calls) (fs : List (List Operand)) :
    framesFrom fs calls = fs := by
  obtain ⟨body, hb, rfl⟩ := h
  obtain ⟨added, ha⟩ := hb.framesFrom [] fs
  simp [Call.onFrames, ha]

theorem framesFrom_blocks {blocks : List (List Call)} (h : ∀ b ∈ blocks, IsBlock b)
    (fs : List (List Operand)) : framesFrom fs blocks.flatten = fs := by
  induction blocks with
  | nil => rfl
  | cons b rest ih =>
    rw [List.flatten_cons, framesFrom_append, (h b (by simp)).framesFrom,
      ih fun c hc => h c (by simp [hc])]

/-- What is live after whole blocks and further calls is what the further calls leave live. -/
theorem liveAfter_blocks {blocks : List (List Call)} (h : ∀ b ∈ blocks, IsBlock b)
    (calls : List Call) : liveAfter (blocks.flatten ++ calls) = liveAfter calls := by
  simp [liveAfter, framesAfter, framesFrom_blocks h]

def depthAfter (calls : List Call) : Nat := (framesAfter calls).length - 1

theorem Opened.length_framesFrom {n : Nat} {calls : List Call} (h : Opened n calls)
    (fs : List (List Operand)) : (RecordAudit.framesFrom fs calls).length = fs.length + n := by
  induction h with
  | none => rfl
  | @frame n calls body _ hb ih =>
    obtain ⟨added, ha⟩ := hb.framesFrom [] (RecordAudit.framesFrom fs calls)
    simp [Call.onFrames, ha, ih, Nat.add_assoc]

theorem Opened.depthAfter {n : Nat} {calls : List Call} (h : Opened n calls) :
    depthAfter calls = n := by
  simp [RecordAudit.depthAfter, framesAfter, h.length_framesFrom]

/-! ## Backends -/

namespace Backend

variable {σ : Type}

def after (b : Backend σ) (calls : List Call) (state : σ) : σ :=
  calls.foldl (fun state c => (b.respond c state).2) state

@[simp] theorem after_nil (b : Backend σ) (state : σ) : b.after [] state = state := rfl

@[simp] theorem after_cons (b : Backend σ) (c : Call) (calls : List Call) (state : σ) :
    b.after (c :: calls) state = b.after calls (b.respond c state).2 := rfl

@[simp] theorem after_append (b : Backend σ) (first second : List Call) (state : σ) :
    b.after (first ++ second) state = b.after second (b.after first state) := List.foldl_append

end Backend

end RecordAudit
