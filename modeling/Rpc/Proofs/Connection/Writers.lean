import Rpc.Proofs.Connection.Branches
import Rpc.Proofs.Keyed
import Rpc.Proofs.Connection.Trail

/-! # Where writers come from

A writer goes when it gets the stream, and comes with a frame that one step built: the frame of a
call, the answer to a request, or a notice about the connection. No step brings more than one.
-/
namespace Rpc

open Message

/-- The kind of frame that a call becomes. -/
def Call.kind (k : Call) : Kind := if k.expectsAnswer then .request else .event

namespace Connection

variable {σ : Type} (p : Profile σ) (c : Connection σ)

theorem resume_writers (result : Except TransportError Unit) (purpose : Purpose) :
    (c.resume p result purpose).1.writers = c.writers ∧
      (c.resume p result purpose).1.nextWriter = c.nextWriter := by
  have h := resume_resumed p c result purpose
  generalize c.resume p result purpose = q at h ⊢
  cases h with
  | unchanged | awaiting | greeted | reading => exact ⟨rfl, rfl⟩
  | finished caller ending => exact ⟨forget_writers c caller, forget_nextWriter c caller⟩
  | failed _ e => exact ⟨leave_writers c, leave_nextWriter c⟩
  | left => exact ⟨leave_writers c, leave_nextWriter c⟩
  | tornDown => exact ⟨teardown_writers c, teardown_nextWriter c⟩

/-- The writer that an event brings to its end. -/
def doneWriter? : Event → Option Nat
  | .write w | .failWrite w _ => some w
  | _ => none

/-- The writers that an event leaves waiting. -/
def waitingWriters (e : Event) : List (Nat × Writer) :=
  match doneWriter? e with
  | some w => c.writers.filter (·.1 ≠ w)
  | none => c.writers

/-- What a frame is written for, and how it was built. -/
inductive Enlists : Event → Purpose → Frame → Prop
  | call {caller : Nat} {k : Call} {n : UInt64} {f : Frame} (hk : c.call? caller = some k)
      (hn : k.stage = .numbered n)
      (hf : (messageFrame p.stack n k.kind k.context.baggage (some k.method) k.payload
        c.surroundings).1 = .ok f) : Enlists (.advance caller) (.call caller n) f
  | answer {handler : Nat} {result : Except Fault Bytes} {n : UInt64} {f : Frame}
      (hn : c.serving.lookup handler = some n)
      (hf : (finalAnswer p.stack n result c.surroundings).1 = some f) :
      Enlists (.answer handler result) .answer f
  | turnDown {g : Frame} {n : UInt64} {fault : Fault} {s : σ} {f : Frame} (hl : c.loop = .reading)
      (hr : react p.side p.stack g c.surroundings = (.turnDown n fault, s))
      (hf : (finalAnswer p.stack n (.error fault) s).1 = some f) :
      Enlists (.arrive (.frame g)) .turnDown f
  | notice {e : Event} {purpose : Purpose} {notice : Notice} {f : Frame}
      (he : doneWriter? e = none) (hf : noticeFrame notice = .ok f)
      (hp : purpose ∈ [.greeting, .greetingBack, .violation, .farewell]) : Enlists e purpose f

theorem Enlists.waitingWriters_eq {e : Event} {purpose : Purpose} {f : Frame}
    (h : Enlists p c e purpose f) : c.waitingWriters e = c.writers := by
  cases h with
  | notice he hf hp => rw [waitingWriters, he]
  | _ => rfl

/-- A state has the writers that an event leaves, and perhaps one more. -/
def BringsWriter (e : Event) (after : Connection σ) : Prop :=
  (after.writers = c.waitingWriters e ∧ after.nextWriter = c.nextWriter) ∨
    ∃ purpose f, Enlists p c e purpose f ∧ (∃ code, f.write p.limit = .ok code) ∧
      after.writers = c.writers ++ [(c.nextWriter, ⟨purpose, f⟩)] ∧
      after.nextWriter = c.nextWriter + 1

variable {p c}

/-- A frame that is enqueued brings its writer, whatever else the step did before and does after. -/
theorem bringsWriter_of_enqueue {e : Event} {purpose : Purpose} {f : Frame}
    {before queued after : Connection σ} (hq : before.enqueue p purpose f = .ok queued)
    (hf : Enlists p c e purpose f) (hw : before.writers = c.writers)
    (hn : before.nextWriter = c.nextWriter) (haw : after.writers = queued.writers)
    (han : after.nextWriter = queued.nextWriter) : BringsWriter p c e after := by
  obtain ⟨hcode, rfl⟩ := enqueue_ok hq
  refine Or.inr ⟨purpose, f, hf, hcode, ?_, ?_⟩
  · rw [haw, ← hw, ← hn]
  · rw [han, ← hn]

theorem bringsWriter_of_eq {e : Event} {after : Connection σ} (he : doneWriter? e = none)
    (hw : after.writers = c.writers) (hn : after.nextWriter = c.nextWriter) :
    BringsWriter p c e after := by
  refine Or.inl ⟨?_, hn⟩
  rw [hw, waitingWriters, he]

theorem start_writers : BringsWriter p c .start (c.start p).1 := by
  have h := start_started p c
  generalize c.start p = q at h ⊢
  cases h with
  | unchanged | refused | up => exact bringsWriter_of_eq rfl rfl rfl
  | failed =>
    exact bringsWriter_of_eq rfl (leave_writers { c with phase := .connecting })
      (leave_nextWriter { c with phase := .connecting })
  | greeting _ _ _ hf hq =>
    exact bringsWriter_of_enqueue hq (.notice rfl hf (by simp)) rfl rfl rfl rfl

theorem stop_writers : BringsWriter p c .stop (c.stop p).1 := by
  have h := stop_stopped p c
  generalize c.stop p = q at h ⊢
  cases h with
  | tornDown => exact bringsWriter_of_eq rfl (teardown_writers c) (teardown_nextWriter c)
  | farewell hf hq => exact bringsWriter_of_enqueue hq (.notice rfl hf (by simp)) rfl rfl rfl rfl

theorem advance_writers (caller : Nat) :
    BringsWriter p c (.advance caller) (c.advance p caller).1 := by
  have h := advance_advanced p c caller
  generalize c.advance p caller = q at h ⊢
  cases h with
  | unchanged | numbered => exact bringsWriter_of_eq rfl rfl rfl
  | unnumbered _ ending | answered ending =>
    exact bringsWriter_of_eq rfl (forget_writers c caller) (forget_nextWriter c caller)
  | unframed s ending =>
    exact bringsWriter_of_eq rfl (forget_writers { c with surroundings := s } caller)
      (forget_nextWriter { c with surroundings := s } caller)
  | framed hk hs hf hq => exact bringsWriter_of_enqueue hq (.call hk hs hf) rfl rfl rfl rfl

/-- What the receive loop says itself has a writer, or is not said. -/
theorem say_writers {e : Event} {purpose : Purpose} {f : Except CodecError Frame}
    {otherwise : Connection σ → Progress σ} {before : Connection σ} (he : doneWriter? e = none)
    (hf : ∀ g, f = .ok g → Enlists p c e purpose g) (hw : before.writers = c.writers)
    (hn : before.nextWriter = c.nextWriter)
    (hother : (otherwise before).1.writers = before.writers ∧
      (otherwise before).1.nextWriter = before.nextWriter) :
    BringsWriter p c e (before.say p purpose f otherwise).1 := by
  have h := say_said p before purpose f otherwise
  generalize before.say p purpose f otherwise = q at h ⊢
  cases h with
  | otherwise => exact bringsWriter_of_eq he (hother.1.trans hw) (hother.2.trans hn)
  | paused hg hq => exact bringsWriter_of_enqueue hq (hf _ hg) hw hn rfl rfl

theorem violate_writers {e : Event} {before : Connection σ} (he : doneWriter? e = none)
    (hw : before.writers = c.writers) (hn : before.nextWriter = c.nextWriter) (code : UInt32)
    (details : String) : BringsWriter p c e (before.violate p code details).1 := by
  have hleave : before.leave.1.writers = before.writers ∧
      before.leave.1.nextWriter = before.nextWriter := by simp
  exact say_writers he (fun g hg => .notice he hg (by simp)) hw hn hleave

theorem accept_writers {f : Frame} (hl : c.loop = .reading) :
    BringsWriter p c (.arrive (.frame f)) (c.accept p f).1 := by
  unfold accept
  simp only
  generalize hr : react p.side p.stack f c.surroundings = r
  obtain ⟨reaction, s⟩ := r
  cases reaction with
  | readOn => exact bringsWriter_of_eq rfl rfl rfl
  | greetBack =>
    exact say_writers rfl (fun g hg => .notice rfl hg (by simp)) rfl rfl (by simp)
  | violation code details => exact violate_writers (c := c) rfl (by rfl) (by rfl) code details
  | leave => exact bringsWriter_of_eq rfl (by simp [follow]) (by simp [follow])
  | serve n d => exact bringsWriter_of_eq rfl rfl rfl
  | notify d => exact bringsWriter_of_eq rfl rfl rfl
  | turnDown n fault =>
    simp only [follow]
    split
    · rename_i g hg
      refine say_writers rfl (fun g' hg' => ?_) rfl rfl ⟨rfl, rfl⟩
      cases hg'
      exact .turnDown hl hr hg
    · exact bringsWriter_of_eq rfl rfl rfl
  | complete n reply => exact bringsWriter_of_eq rfl (by simp [follow]) (by simp [follow])

theorem greet_writers (incoming : Incoming) :
    (c.greet p incoming).1.writers = c.writers ∧
      (c.greet p incoming).1.nextWriter = c.nextWriter := by
  cases incoming with
  | frame f =>
    simp only [greet]
    split <;> simp [establish, failHandshake]
  | malformed e => simp [greet, failHandshake]
  | broken fault => simp [greet, failHandshake]
  | ended => simp [greet, failHandshake]

theorem arrive_writers (incoming : Incoming) :
    BringsWriter p c (.arrive incoming) (c.arrive p incoming).1 := by
  unfold arrive
  split
  · have h := greet_writers (p := p) (c := c) incoming
    exact bringsWriter_of_eq rfl h.1 h.2
  · rename_i hl
    cases incoming with
    | frame f => exact accept_writers hl
    | malformed e => exact violate_writers rfl rfl rfl _ _
    | broken fault => exact bringsWriter_of_eq rfl (by simp) (by simp)
    | ended => exact bringsWriter_of_eq rfl (by simp) (by simp)
  · exact bringsWriter_of_eq rfl rfl rfl

theorem answer_writers (handler : Nat) (result : Except Fault Bytes) :
    BringsWriter p c (.answer handler result) (c.answer p handler result).1 := by
  have h := answer_answered p c handler result
  generalize c.answer p handler result = q at h ⊢
  cases h with
  | unchanged | lost => exact bringsWriter_of_eq rfl rfl rfl
  | queued hn hf hq => exact bringsWriter_of_enqueue hq (.answer hn hf) rfl rfl rfl rfl

theorem Called.writers {e : Event} {caller : Nat} {q : Progress σ} (h : c.Called caller q)
    (he : doneWriter? e = none) : BringsWriter p c e q.1 := by
  cases h with
  | unchanged | refused | joined => exact bringsWriter_of_eq he rfl rfl

theorem GivenUp.writers {e : Event} {caller : Nat} {q : Progress σ} (h : c.GivenUp caller q)
    (he : doneWriter? e = none) : BringsWriter p c e q.1 := by
  cases h with
  | unchanged => exact bringsWriter_of_eq he rfl rfl
  | finished cause =>
    exact bringsWriter_of_eq he (forget_writers c caller) (forget_nextWriter c caller)

theorem timeOutHandshake_writers (waited : Span) :
    BringsWriter p c (.handshakeTimeout waited) (c.timeOutHandshake waited).1 := by
  have h := timeOutHandshake_timedOut c waited
  generalize c.timeOutHandshake waited = q at h ⊢
  cases h with
  | unchanged => exact bringsWriter_of_eq rfl rfl rfl
  | failed _ e => exact bringsWriter_of_eq rfl (leave_writers c) (leave_nextWriter c)

theorem write_writers (w : Nat) : BringsWriter p c (.write w) (c.write p w).1 := by
  left
  cases h : c.writers.lookup w with
  | none =>
    simp only [write, h, waitingWriters, doneWriter?]
    exact ⟨(filter_ne_eq_self h).symm, trivial⟩
  | some v =>
    simp only [write, h, waitingWriters, doneWriter?]
    split
    · exact resume_writers p (c.dropWriter w) _ v.purpose
    · exact resume_writers p (c.dropWriter w) _ v.purpose

theorem failWrite_writers (w : Nat) (fault : IoFault) :
    BringsWriter p c (.failWrite w fault) (c.failWrite p w fault).1 := by
  left
  cases h : c.writers.lookup w with
  | none =>
    simp only [failWrite, h, waitingWriters, doneWriter?]
    exact ⟨(filter_ne_eq_self h).symm, trivial⟩
  | some v =>
    have hresume := resume_writers p (c.dropWriter w).teardown.1
      (.error (if (c.dropWriter w).shut then TransportError.connectionClosed else .io fault))
      v.purpose
    simp only [teardown_writers, teardown_nextWriter] at hresume
    simp only [failWrite, h, waitingWriters, doneWriter?]
    exact hresume

/-- What a step does to the writers: the one that got the stream goes, and one comes at most. -/
theorem writers_step (e : Event) : BringsWriter p c e (c.step p e).1 := by
  cases e with
  | start => exact start_writers
  | call caller expects context moment method payload => exact (call_called c caller ..).writers rfl
  | advance caller => exact advance_writers caller
  | expire caller => exact (expire_givenUp c caller).writers rfl
  | cancel caller => exact (cancel_givenUp c caller).writers rfl
  | abandon caller =>
    exact bringsWriter_of_eq rfl (by simp [step, abandon]) (by simp [step, abandon])
  | write w => exact write_writers w
  | failWrite w fault => exact failWrite_writers w fault
  | arrive incoming => exact arrive_writers incoming
  | answer handler result => exact answer_writers handler result
  | handshakeTimeout waited => exact timeOutHandshake_writers waited
  | stop => exact stop_writers

/-- Writers keep their numbers to themselves. -/
theorem writersBelow_step {e : Event} (h : KeysBelow c.writers c.nextWriter) :
    KeysBelow (c.step p e).1.writers (c.step p e).1.nextWriter := by
  rcases writers_step (p := p) (c := c) e with ⟨hw, hn⟩ | ⟨purpose, f, -, -, hw, hn⟩
  · rw [hw, hn, waitingWriters]
    split
    · exact h.filter _
    · exact h
  · rw [hw, hn]
    exact h.concat _

theorem writersBelow_run (s : σ) (es : List Event) :
    KeysBelow (run p (.new p s) es).1.writers (run p (.new p s) es).1.nextWriter :=
  run_preserves (I := fun c => KeysBelow c.writers c.nextWriter)
    (fun _ _ => writersBelow_step) (.nil _) es

end Connection

end Rpc
