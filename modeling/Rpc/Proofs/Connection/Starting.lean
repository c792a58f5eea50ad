import Rpc.Proofs.Connection.Loop

/-! # The start comes to one end

A start tells its result once, when the greeting of the server has come or the handshake has failed.
Calls and handlers tell nobody but their callers, and a receive loop that is past its greeting never
comes back to it, so nothing that happens later tells of a start again.
-/
namespace Rpc

open Message

/-- The result of a start. -/
def Output.started? : Output → Option (Except TransportError Unit)
  | .started result => some result
  | _ => none

/-- Whether an event is one of a call or a handler. -/
def Event.isOfCall : Event → Bool
  | .call .. | .advance _ | .expire _ | .cancel _ | .abandon _ | .answer _ _ => true
  | _ => false

/-- Whether the result of a start is still to come. -/
def Loop.isStarting : Loop → Bool
  | .unstarted | .greeting | .greeted => true
  | .reading | .paused | .over => false

namespace Connection

variable {σ : Type} {p : Profile σ} {c : Connection σ}

/-! ## Calls and handlers -/

theorem GivenUp.keepsLoop {caller : Nat} {q : Progress σ} (h : c.GivenUp caller q) :
    KeepsLoop c q.1 := by
  cases h with
  | unchanged => exact keepsLoop_refl
  | finished cause => exact keepsLoop_refl.finish caller (.failed cause)

theorem ofCall_keepsLoop {e : Event} (he : e.isOfCall) : KeepsLoop c (c.step p e).1 := by
  cases e with
  | call caller expects context moment method payload => exact call_keepsLoop
  | advance caller => exact advance_keepsLoop caller
  | expire caller => exact (expire_givenUp c caller).keepsLoop
  | cancel caller => exact (cancel_givenUp c caller).keepsLoop
  | abandon caller => exact keepsLoop_refl.finish caller .sent
  | answer handler result => exact answer_keepsLoop handler result
  | _ => cases he

/-- All that is told is how calls have ended. -/
def TellsEndings (outputs : List Output) : Prop :=
  ∀ o ∈ outputs, ∃ caller ending, o = .ended caller ending

theorem tellsEndings_nil : TellsEndings [] := fun _ ho => absurd ho List.not_mem_nil

theorem tellsEndings_one (caller : Nat) (ending : Ending) : TellsEndings [.ended caller ending] :=
  fun _ ho => ⟨caller, ending, List.mem_singleton.mp ho⟩

theorem Called.tellsEndings {caller : Nat} {q : Progress σ} (h : c.Called caller q) :
    TellsEndings q.2 := by
  cases h with
  | unchanged | joined => exact tellsEndings_nil
  | refused cause => exact tellsEndings_one caller (.failed cause)

theorem Advanced.tellsEndings {caller : Nat} {q : Progress σ} (h : c.Advanced p caller q) :
    TellsEndings q.2 := by
  cases h with
  | unchanged | numbered | framed => exact tellsEndings_nil
  | unnumbered _ ending | answered ending => exact tellsEndings_one caller ending
  | unframed _ ending => exact tellsEndings_one caller ending

theorem GivenUp.tellsEndings {caller : Nat} {q : Progress σ} (h : c.GivenUp caller q) :
    TellsEndings q.2 := by
  cases h with
  | unchanged => exact tellsEndings_nil
  | finished cause => exact tellsEndings_one caller (.failed cause)

/-- What happens to a call is told to its caller only. -/
theorem ofCall_outputs {e : Event} (he : e.isOfCall) : TellsEndings (c.step p e).2 := by
  cases e with
  | call caller expects context moment method payload =>
    exact (call_called c caller ..).tellsEndings
  | advance caller => exact (advance_advanced p c caller).tellsEndings
  | expire caller => exact (expire_givenUp c caller).tellsEndings
  | cancel caller => exact (cancel_givenUp c caller).tellsEndings
  | abandon caller => exact tellsEndings_nil
  | answer handler result =>
    simp only [step, answer_outputs]
    exact tellsEndings_nil
  | _ => cases he

theorem ofCall_started {e : Event} (he : e.isOfCall) :
    (c.step p e).2.filterMap Output.started? = [] := by
  rw [List.filterMap_eq_nil_iff]
  intro o ho
  obtain ⟨caller, ending, rfl⟩ := ofCall_outputs he o ho
  rfl

/-! ## Behind the start -/

/-- A progress at whose end no start is under way, and which tells of none. -/
def Settles (q : Progress σ) : Prop :=
  q.1.loop.isStarting = false ∧ q.2.filterMap Output.started? = []

theorem settles_of_eq {q : Progress σ} (hl : c.loop.isStarting = false) (hloop : q.1.loop = c.loop)
    (ho : q.2.filterMap Output.started? = []) : Settles q := ⟨by rw [hloop, hl], ho⟩

theorem teardown_settles (hl : c.loop.isStarting = false) : Settles c.teardown := by
  refine settles_of_eq hl (teardown_loop c) ?_
  unfold teardown
  split <;> rfl

theorem leave_settles : Settles c.leave := teardown_settles (c := { c with loop := .over }) rfl

theorem say_settles {purpose : Purpose} {f : Except CodecError Frame}
    {otherwise : Connection σ → Progress σ} (h : Settles (otherwise c)) :
    Settles (c.say p purpose f otherwise) := by
  have hsaid := say_said p c purpose f otherwise
  generalize c.say p purpose f otherwise = q at hsaid ⊢
  cases hsaid with
  | otherwise => exact h
  | paused => exact ⟨rfl, rfl⟩

theorem Settles.cons {q : Progress σ} (h : Settles q) {o : Output} (ho : o.started? = none) :
    Settles (q.1, o :: q.2) := ⟨h.1, by rw [List.filterMap_cons, ho]; exact h.2⟩

theorem finish_settles (hl : c.loop.isStarting = false) (caller : Nat) (ending : Ending) :
    Settles (c.finish caller ending) := settles_of_eq hl (forget_loop c caller) rfl

theorem resume_settles (hl : c.loop.isStarting = false) (result : Except TransportError Unit)
    (purpose : Purpose) : Settles (c.resume p result purpose) := by
  have h := resume_resumed p c result purpose
  generalize c.resume p result purpose = q at h ⊢
  cases h with
  | unchanged | awaiting => exact ⟨hl, rfl⟩
  | finished caller ending => exact finish_settles hl caller ending
  | reading => exact ⟨rfl, rfl⟩
  | greeted hgreeting | failed hgreeting => simp [hgreeting, Loop.isStarting] at hl
  | left => exact leave_settles
  | tornDown => exact teardown_settles hl

theorem follow_settles (hl : c.loop.isStarting = false) (r : Reaction) :
    Settles (c.follow p r) := by
  cases r with
  | readOn => exact ⟨hl, rfl⟩
  | greetBack => exact say_settles leave_settles
  | violation code details => exact (say_settles leave_settles).cons (o := .violated) rfl
  | leave => exact leave_settles
  | serve n d => exact ⟨hl, rfl⟩
  | notify d => exact ⟨hl, rfl⟩
  | turnDown n fault =>
    simp only [follow]
    split
    · exact say_settles ⟨hl, rfl⟩
    · exact ⟨hl, rfl⟩
  | complete n reply => exact settles_of_eq hl (resolve_loop c reply n) rfl

theorem arrive_settles (hl : c.loop.isStarting = false) (incoming : Incoming) :
    Settles (c.arrive p incoming) := by
  cases hloop : c.loop with
  | unstarted | greeting | greeted => simp [hloop, Loop.isStarting] at hl
  | reading =>
    simp only [arrive, hloop]
    cases incoming with
    | frame f =>
      have h := follow_settles (p := p)
        (c := { c with surroundings := (react p.side p.stack f c.surroundings).2 }) hl
        (react p.side p.stack f c.surroundings).1
      exact h.cons (o := .received f.kind) rfl
    | malformed e => exact (say_settles leave_settles).cons (o := .violated) rfl
    | broken fault => exact leave_settles
    | ended => exact leave_settles
  | _ =>
    simp only [arrive, hloop]
    exact ⟨hl, rfl⟩

theorem timeOutHandshake_settles (hl : c.loop.isStarting = false) (waited : Span) :
    Settles (c.timeOutHandshake waited) := by
  have h := timeOutHandshake_timedOut c waited
  generalize c.timeOutHandshake waited = q at h ⊢
  cases h with
  | unchanged => exact ⟨hl, rfl⟩
  | failed hloop => rcases hloop with hloop | hloop <;> simp [hloop, Loop.isStarting] at hl

theorem stop_settles (hl : c.loop.isStarting = false) : Settles (c.stop p) := by
  have h := stop_stopped p c
  generalize c.stop p = q at h ⊢
  cases h with
  | tornDown => exact teardown_settles hl
  | farewell _ hq =>
    obtain ⟨-, rfl⟩ := enqueue_ok hq
    exact ⟨hl, rfl⟩

/-- Once a start has come to its end, no step brings it back or tells of it. -/
theorem settles_step (hl : c.loop.isStarting = false) (e : Event) : Settles (c.step p e) := by
  have hstay : Settles (c, []) := ⟨hl, rfl⟩
  by_cases he : e.isOfCall
  · exact settles_of_eq hl (ofCall_keepsLoop he).loop (ofCall_started he)
  · cases e with
    | start =>
      have hne : c.loop ≠ .unstarted := fun h => by simp [h, Loop.isStarting] at hl
      simp only [step, start, if_pos hne]
      exact hstay
    | write w =>
      simp only [step, write]
      split
      · exact hstay
      · split
        · exact resume_settles (c := c.dropWriter w) hl _ _
        · rename_i v _ _
          exact (resume_settles (c := c.dropWriter w) hl _ _).cons (o := .sent v.frame) rfl
    | failWrite w fault =>
      simp only [step, failWrite]
      split
      · exact hstay
      · rename_i v hv
        have hdown : Settles (c.dropWriter w).teardown := teardown_settles hl
        have hback := resume_settles (p := p) hdown.1
          (.error (if (c.dropWriter w).shut then TransportError.connectionClosed else .io fault))
          v.purpose
        refine ⟨hback.1, ?_⟩
        simp only [Progress.andThen, List.filterMap_append]
        exact List.append_eq_nil_iff.mpr ⟨hdown.2, hback.2⟩
    | arrive incoming => exact arrive_settles hl incoming
    | handshakeTimeout waited => exact timeOutHandshake_settles hl waited
    | stop => exact stop_settles hl
    | _ => simp [Event.isOfCall] at he

end Connection

end Rpc
