import RecordAudit.Proofs.Session.Conduct

/-!
# Operations of sessions keep the rules

One rule for each operation of a session: what has to hold of the stance before it, so that a wish
about the result and the stance after it is met. Within a scope an operation makes its call, and
outside it is refused and changes nothing. Replies to pushes and pops are taken to be successes.
-/

namespace RecordAudit

open TaskM

/-- Frames can always be opened and dropped. -/
structure Replies.Steady (allows : Replies) : Prop where
  push : ∀ {calls reply}, allows calls .push reply → reply = .ok ()
  pop : ∀ {calls reply}, allows calls .pop reply → reply = .ok ()

namespace Session

variable {α : Type} {allows : Replies} {s : SessionId} {st : Stance} {n : Nat} {calls : List Call}

theorem wp_requireScope {Q : Except Interrupt Unit → Stance → Prop} :
    (requireScope s).wp allows st Q ↔
      Q (if st.hold.owns s then .ok () else .error (.fault .outsideScope)) st := by
  unfold requireScope
  rw [TaskM.wp_ask_bind]
  cases h : st.hold.owns s <;> simp [Request.wp, h]

/-! ## Outside a scope -/

section Refused

variable (h : st.hold.owns s = false)

include h

theorem wp_add_refused {a : Operand} {Q : Except Interrupt Unit → Stance → Prop}
    (hQ : Q (.error (.fault .outsideScope)) st) : (add s a).wp allows st Q := by
  unfold add
  rw [TaskM.wp_bind, wp_requireScope]
  simpa [h] using hQ

theorem wp_check_refused {τ : Timeout} {Q : Except Interrupt Answer → Stance → Prop}
    (hQ : Q (.error (.fault .outsideScope)) st) : (check s τ).wp allows st Q := by
  unfold check
  rw [TaskM.wp_bind, wp_requireScope]
  simpa [h] using hQ

theorem wp_frame_refused {body : TaskM α} {Q : Except Interrupt α → Stance → Prop}
    (hQ : Q (.error (.fault .outsideScope)) st) : (frame s body).wp allows st Q := by
  unfold frame openFrame
  rw [TaskM.wp_bind, TaskM.wp_bind, wp_requireScope]
  simpa [h] using hQ

end Refused

/-! ## Inside a scope -/

theorem wp_push {Q : Except Interrupt Unit → Stance → Prop} (steady : allows.Steady)
    (hold : st.hold = .scope s true n calls)
    (hQ : Q (.ok ()) (st.holding (.scope s true (n + 1) (calls ++ [.push])))) :
    (push s).wp allows st Q := by
  unfold push
  rw [TaskM.wp_ask_bind]
  refine ⟨n, calls, hold, fun reply hreply => ?_⟩
  rw [steady.push hreply]
  simpa using hQ

theorem wp_pop {Q : Except Interrupt Unit → Stance → Prop} (steady : allows.Steady)
    (hold : st.hold = .scope s true (n + 1) calls) (hQ : Q (.ok ()) (st.popped s n calls)) :
    (pop s).wp allows st Q := by
  unfold pop
  rw [TaskM.wp_ask_bind]
  refine ⟨n, calls, hold, fun reply hreply => ?_⟩
  rw [steady.pop hreply]
  simpa using hQ

theorem wp_add {a : Operand} {Q : Except Interrupt Unit → Stance → Prop}
    (hold : st.hold = .scope s true (n + 1) calls)
    (hQ : ∀ reply, allows calls (.add a) reply →
      Q (reply.mapError .fault) (st.holding (.scope s true (n + 1) (calls ++ [.add a])))) :
    (add s a).wp allows st Q := by
  unfold add
  rw [TaskM.wp_bind, wp_requireScope]
  simp only [hold, Hold.owns, beq_self_eq_true, Bool.and_self, if_true, andThen_ok]
  rw [TaskM.wp_ask_bind]
  exact ⟨n, calls, hold, fun reply hreply => by simpa using hQ reply hreply⟩

theorem wp_check {τ : Timeout} {Q : Except Interrupt Answer → Stance → Prop}
    (hold : st.hold = .scope s true (n + 1) calls)
    (hQ : ∀ answer, allows calls (.check τ) answer →
      Q (answer.mapError .fault) (st.holding (.scope s true (n + 1) (calls ++ [.check τ])))) :
    (check s τ).wp allows st Q := by
  unfold check
  rw [TaskM.wp_bind, wp_requireScope]
  simp only [hold, Hold.owns, beq_self_eq_true, Bool.and_self, if_true, andThen_ok]
  rw [TaskM.wp_ask_bind]
  refine ⟨n, calls, hold, fun c => ?_⟩
  beta_reduce
  rw [TaskM.wp_ask_bind]
  exact ⟨s, n, calls, τ, rfl, fun answer ha => by simpa using hQ answer ha⟩

theorem wp_frame {body : TaskM α} {Q : Except Interrupt α → Stance → Prop} (steady : allows.Steady)
    (hold : st.hold = .scope s true (n + 1) calls)
    (hbody : body.wp allows (st.holding (.scope s true (n + 2) (calls ++ [.push])))
      fun result st' =>
      ∃ calls', st'.hold = .scope s true (n + 2) calls' ∧
        Q result (st'.holding (.scope s true (n + 1) (calls' ++ [.pop])))) :
    (frame s body).wp allows st Q := by
  unfold frame openFrame
  rw [TaskM.wp_bind, TaskM.wp_bind, wp_requireScope]
  simp only [hold, Hold.owns, beq_self_eq_true, Bool.and_self, if_true, andThen_ok]
  refine wp_push steady hold ?_
  rw [andThen_ok, wp_ensuring]
  refine TaskM.wp_mono ?_ hbody
  rintro result st' ⟨calls', hold', hQ⟩
  exact wp_pop steady hold' hQ

theorem wp_enter {Q : Except Interrupt Unit → Stance → Prop} (steady : allows.Steady)
    (hold : st.hold = .nothing) (known : s ∈ st.known)
    (hQ : Q (.ok ()) (st.holding (.scope s true 1 [.push]))) : (enter s).wp allows st Q := by
  unfold enter
  rw [TaskM.wp_ask_bind]
  refine ⟨hold, known, ?_⟩
  simp only [TaskM.wp_bind, wp_answered_some, andThen_ok, wp_orElse]
  exact ⟨rfl, wp_push steady rfl (by simpa using hQ)⟩

theorem wp_leave {Q : Except Interrupt Unit → Stance → Prop} (steady : allows.Steady)
    (hold : st.hold = .scope s true 1 calls)
    (hQ : Q (.ok ()) (st.left s (calls ++ [.pop]))) :
    (leave s).wp allows st Q := by
  unfold leave
  rw [wp_ensuring, TaskM.wp_bind]
  refine wp_pop steady hold ?_
  rw [andThen_ok, TaskM.wp_ask]
  exact ⟨rfl, rfl, hQ⟩

/-- A body that leaves its scope as it found it, but for the calls that it made. -/
theorem wp_scope {body : TaskM α} {Q : Except Interrupt α → Stance → Prop} (steady : allows.Steady)
    (hold : st.hold = .nothing) (known : s ∈ st.known)
    (hbody : body.wp allows (st.holding (.scope s true 1 [.push])) fun result st' =>
      ∃ calls, st'.hold = .scope s true 1 calls ∧
        Q result (st'.left s (calls ++ [.pop]))) :
    (scope s body).wp allows st Q := by
  unfold scope
  rw [TaskM.wp_bind]
  refine wp_enter steady hold known ?_
  rw [andThen_ok, wp_ensuring]
  refine TaskM.wp_mono ?_ hbody
  rintro result st' ⟨calls, hold', hQ⟩
  exact wp_leave steady hold' hQ

theorem wp_current {Q : Except Interrupt SessionId → Stance → Prop} (served : st.served = true)
    (hQ : ∀ s, Q (.ok s) (st.meet s).serve) : current.wp allows st Q := by
  unfold current
  rw [TaskM.wp_ask_bind]
  exact ⟨fun unserved => absurd (served.symm.trans unserved) nofun, fun s => by simpa using hQ s⟩

/-- The task that has the provider's lock sees to it that a session is shared. -/
theorem wp_create {Q : Except Interrupt Unit → Stance → Prop} (hold : st.hold = .provider)
    (hQ : ∀ s, Q (.ok ()) (st.meet s).serve) : create.wp allows st Q := by
  have back : ∀ s, ((st.meet s).holding .provider).serve = (st.meet s).serve := fun s => by
    rw [← hold]; rfl
  unfold create
  rw [TaskM.wp_ask_bind]
  refine ⟨fun _ => ?_, fun s => hQ s⟩
  refine (TaskM.wp_ask_bind _ _ _).2 ⟨hold, fun c => (TaskM.wp_ask_bind _ _ _).2 ⟨rfl, fun s => ?_⟩⟩
  simp only [andThen_ok, wp_answered_some, wp_ofExcept, mapError_ok, TaskM.wp_bind]
  exact ⟨by simp [Stance.meet], back s ▸ hQ s⟩

/-- Whichever way a task comes by the shared session, it then knows it. -/
theorem wp_get {Q : Except Interrupt SessionId → Stance → Prop} (hold : st.hold = .nothing)
    (hQ : ∀ s st', st'.hold = .nothing → s ∈ st'.known → st'.made = st.made → Q (.ok s) st') :
    get.wp allows st Q := by
  have met : ∀ s, s ∈ (st.meet s).serve.known := fun s => List.mem_cons_self
  unfold get
  rw [TaskM.wp_ask_bind]
  refine ⟨fun _ => (TaskM.wp_ask_bind _ _ _).2 ⟨hold, ?_⟩, fun s => ?_⟩
  · simp only [TaskM.wp_bind, wp_answered_some, andThen_ok, wp_ensuring]
    refine wp_create rfl fun s => ⟨rfl, ?_⟩
    exact wp_current rfl fun s' => hQ s' _ rfl List.mem_cons_self rfl
  · exact hQ s _ hold (met s) rfl

end Session

end RecordAudit
