import Rpc.Proofs.Connection.Writers

/-! # What a step puts out

Frames go out when a writer gets the stream, and messages go to the application when the receive
loop takes in the frames that carry them. All other outputs stay with the callers and with those
who watch the connection.
-/
namespace Rpc

open Message

namespace Output

/-- The frame that is put on the wire. -/
def frame? : Output → Option Frame
  | .sent f => some f
  | _ => none

/-- The request that is handed to a handler. -/
def serve? : Output → Option (Nat × UInt64 × Delivery)
  | .serve handler n d => some (handler, n, d)
  | _ => none

/-- The event that is handed to the application. -/
def notify? : Output → Option Delivery
  | .notify d => some d
  | _ => none

/-- Whether neither the peer nor the application hears of an output. -/
def isLocal (o : Output) : Bool := o.frame?.isNone && o.serve?.isNone && o.notify?.isNone

theorem frame?_of_isLocal {o : Output} (h : o.isLocal) : o.frame? = none := by
  cases o <;> first | rfl | cases h

theorem serve?_of_isLocal {o : Output} (h : o.isLocal) : o.serve? = none := by
  cases o <;> first | rfl | cases h

theorem notify?_of_isLocal {o : Output} (h : o.isLocal) : o.notify? = none := by
  cases o <;> first | rfl | cases h

end Output

namespace Connection

variable {σ : Type} {p : Profile σ} {c : Connection σ}

theorem filterMap_of_isLocal {α : Type} {f : Output → Option α} {outputs : List Output}
    (hf : ∀ o : Output, o.isLocal → f o = none) (h : ∀ o ∈ outputs, o.isLocal) :
    outputs.filterMap f = [] := by
  rw [List.filterMap_eq_nil_iff]
  exact fun o ho => hf o (h o ho)

theorem teardown_isLocal : ∀ o ∈ c.teardown.2, o.isLocal := by
  unfold teardown
  split
  · simp
  · simp [Output.isLocal, Output.frame?, Output.serve?, Output.notify?]

theorem failHandshake_isLocal (e : TransportError) : ∀ o ∈ (c.failHandshake e).2, o.isLocal := by
  intro o ho
  rcases List.mem_append.mp ho with ho | ho
  · rcases List.mem_cons.mp ho with rfl | ho
    · rfl
    · exact teardown_isLocal o ho
  · rw [List.mem_singleton.mp ho]
    rfl

theorem finish_isLocal (caller : Nat) (ending : Ending) :
    ∀ o ∈ (c.finish caller ending).2, o.isLocal := by
  intro o ho
  rw [List.mem_singleton.mp ho]
  rfl

theorem isLocal_of_nil : ∀ o ∈ ([] : List Output), o.isLocal := by simp

theorem resume_isLocal (result : Except TransportError Unit) (purpose : Purpose) :
    ∀ o ∈ (c.resume p result purpose).2, o.isLocal := by
  have h := resume_resumed p c result purpose
  generalize c.resume p result purpose = q at h ⊢
  cases h with
  | unchanged | awaiting | greeted | reading => exact isLocal_of_nil
  | finished caller ending => exact finish_isLocal caller ending
  | failed _ e => exact failHandshake_isLocal e
  | left | tornDown => exact teardown_isLocal

theorem say_isLocal {purpose : Purpose} {f : Except CodecError Frame}
    {otherwise : Connection σ → Progress σ} (hother : ∀ o ∈ (otherwise c).2, o.isLocal) :
    ∀ o ∈ (c.say p purpose f otherwise).2, o.isLocal := by
  have h := say_said p c purpose f otherwise
  generalize c.say p purpose f otherwise = q at h ⊢
  cases h with
  | otherwise => exact hother
  | paused => exact isLocal_of_nil

theorem violate_isLocal (code : UInt32) (details : String) :
    ∀ o ∈ (c.violate p code details).2, o.isLocal := by
  intro o ho
  have hleave : ∀ o ∈ c.leave.2, o.isLocal := teardown_isLocal
  rcases List.mem_cons.mp ho with rfl | ho
  · rfl
  · exact say_isLocal hleave o ho

theorem greet_isLocal (incoming : Incoming) : ∀ o ∈ (c.greet p incoming).2, o.isLocal := by
  cases incoming with
  | frame f =>
    intro o ho
    rcases List.mem_cons.mp ho with rfl | ho
    · rfl
    · cases hf : expectGreeting f with
      | ok _ =>
        simp only [hf, establish, List.cons_append, List.nil_append, List.mem_cons,
          List.not_mem_nil, or_false] at ho
        rcases ho with rfl | rfl <;> rfl
      | error e =>
        simp only [hf] at ho
        exact failHandshake_isLocal e o ho
  | malformed e => exact failHandshake_isLocal _
  | broken fault => exact failHandshake_isLocal _
  | ended => exact failHandshake_isLocal _

variable (p c)

/-- The frame that an event brings to the receive loop of a connection that is up, with what it
asks for. -/
def takes : Event → List (Frame × Reaction)
  | .arrive (.frame f) =>
    if c.loop = .reading then [(f, (react p.side p.stack f c.surroundings).1)] else []
  | _ => []

variable {p c} in
theorem takes_of_ne_reading (h : c.loop ≠ .reading) (e : Event) : c.takes p e = [] := by
  unfold takes
  split
  · exact if_neg h
  · rfl

variable {p c} in
theorem takes_frame (h : c.loop = .reading) (f : Frame) :
    c.takes p (.arrive (.frame f)) = [(f, (react p.side p.stack f c.surroundings).1)] := if_pos h

/-- The handlers that an event leaves at work. -/
def busyHandlers : Event → List (Nat × UInt64)
  | .answer handler _ => c.serving.filter (·.1 ≠ handler)
  | _ => c.serving

end Connection

namespace Reaction

def serve? : Reaction → Option (UInt64 × Delivery)
  | .serve n d => some (n, d)
  | _ => none

def notify? : Reaction → Option Delivery
  | .notify d => some d
  | _ => none

end Reaction

namespace Connection

variable {σ : Type} {p : Profile σ} {c : Connection σ}

/-- What following a reaction tells the peer and the application. -/
theorem follow_outputs (r : Reaction) :
    (c.follow p r).2.filterMap Output.frame? = [] ∧
    (c.follow p r).2.filterMap Output.serve? =
      (r.serve?.map fun s => (c.nextHandler, s.1, s.2)).toList ∧
    (c.follow p r).2.filterMap Output.notify? = r.notify?.toList := by
  have hlocal : ∀ {outputs : List Output}, (∀ o ∈ outputs, o.isLocal) →
      outputs.filterMap Output.frame? = [] ∧ outputs.filterMap Output.serve? = [] ∧
        outputs.filterMap Output.notify? = [] := fun h =>
    ⟨filterMap_of_isLocal (fun _ => Output.frame?_of_isLocal) h,
      filterMap_of_isLocal (fun _ => Output.serve?_of_isLocal) h,
      filterMap_of_isLocal (fun _ => Output.notify?_of_isLocal) h⟩
  have hleave : ∀ {c : Connection σ}, ∀ o ∈ c.leave.2, o.isLocal := teardown_isLocal
  cases r with
  | readOn => exact ⟨rfl, rfl, rfl⟩
  | greetBack => exact hlocal (say_isLocal hleave)
  | violation code details => exact hlocal (violate_isLocal code details)
  | leave => exact hlocal hleave
  | serve n d => exact ⟨rfl, rfl, rfl⟩
  | notify d => exact ⟨rfl, rfl, rfl⟩
  | turnDown n fault =>
    simp only [follow]
    split
    · exact hlocal (say_isLocal (by simp))
    · exact ⟨rfl, rfl, rfl⟩
  | complete n reply => exact ⟨rfl, rfl, rfl⟩

/-- The handlers at work in a state are those of another. -/
def SameHandlers (c c' : Connection σ) : Prop :=
  c'.serving = c.serving ∧ c'.nextHandler = c.nextHandler

theorem enqueue_handlers {purpose : Purpose} {f : Frame} {c' : Connection σ}
    (h : c.enqueue p purpose f = .ok c') : SameHandlers c c' := by
  obtain ⟨-, rfl⟩ := enqueue_ok h
  exact ⟨rfl, rfl⟩

theorem leave_handlers : SameHandlers c c.leave.1 := ⟨leave_serving c, leave_nextHandler c⟩

theorem failHandshake_handlers (e : TransportError) : SameHandlers c (c.failHandshake e).1 :=
  leave_handlers

theorem finish_handlers (caller : Nat) (ending : Ending) :
    SameHandlers c (c.finish caller ending).1 :=
  ⟨forget_serving c caller, forget_nextHandler c caller⟩

theorem teardown_handlers : SameHandlers c c.teardown.1 :=
  ⟨teardown_serving c, teardown_nextHandler c⟩

theorem resume_handlers (result : Except TransportError Unit) (purpose : Purpose) :
    SameHandlers c (c.resume p result purpose).1 := by
  have h := resume_resumed p c result purpose
  generalize c.resume p result purpose = q at h ⊢
  cases h with
  | unchanged | awaiting | greeted | reading => exact ⟨rfl, rfl⟩
  | finished caller ending => exact finish_handlers caller ending
  | failed _ e => exact failHandshake_handlers e
  | left => exact leave_handlers
  | tornDown => exact teardown_handlers

theorem say_handlers {purpose : Purpose} {f : Except CodecError Frame}
    {otherwise : Connection σ → Progress σ} (hother : SameHandlers c (otherwise c).1) :
    SameHandlers c (c.say p purpose f otherwise).1 := by
  have h := say_said p c purpose f otherwise
  generalize c.say p purpose f otherwise = q at h ⊢
  cases h with
  | otherwise => exact hother
  | paused _ hq => exact (enqueue_handlers hq : SameHandlers c _)

theorem violate_handlers (code : UInt32) (details : String) :
    SameHandlers c (c.violate p code details).1 := by
  have hleave : SameHandlers c (leave c).1 := leave_handlers
  exact say_handlers hleave

/-- A reaction puts the handler of its request to work, if it hands over a request. -/
theorem follow_handlers (r : Reaction) :
    (c.follow p r).1.serving =
        c.serving ++ (r.serve?.map fun s => (c.nextHandler, s.1)).toList ∧
      (c.follow p r).1.nextHandler = c.nextHandler + r.serve?.toList.length := by
  have hsame : ∀ {c' : Connection σ}, SameHandlers c c' →
      c'.serving = c.serving ++ [] ∧ c'.nextHandler = c.nextHandler + 0 := fun h =>
    ⟨h.1.trans (List.append_nil _).symm, h.2⟩
  cases r with
  | readOn => exact hsame ⟨rfl, rfl⟩
  | greetBack => exact hsame (say_handlers leave_handlers)
  | violation code details => exact hsame (violate_handlers code details)
  | leave => exact hsame leave_handlers
  | serve n d => exact ⟨rfl, rfl⟩
  | notify d => exact hsame ⟨rfl, rfl⟩
  | turnDown n fault =>
    simp only [follow]
    split
    · exact hsame (say_handlers ⟨rfl, rfl⟩)
    · exact hsame ⟨rfl, rfl⟩
  | complete n reply =>
    exact hsame ⟨resolve_serving c reply n, resolve_nextHandler c reply n⟩

theorem start_isLocal : ∀ o ∈ (c.start p).2, o.isLocal := by
  have h := start_started p c
  generalize c.start p = q at h ⊢
  cases h with
  | unchanged | greeting => exact isLocal_of_nil
  | refused | up =>
    intro o ho
    rw [List.mem_singleton.mp ho]
    rfl
  | failed _ _ e => exact failHandshake_isLocal e

theorem Called.isLocal {caller : Nat} {q : Progress σ} (h : c.Called caller q) :
    ∀ o ∈ q.2, o.isLocal := by
  cases h with
  | unchanged | joined => exact isLocal_of_nil
  | refused cause => exact finish_isLocal (c := c) caller (.failed cause)

theorem Advanced.isLocal {caller : Nat} {q : Progress σ} (h : c.Advanced p caller q) :
    ∀ o ∈ q.2, o.isLocal := by
  cases h with
  | unchanged | numbered | framed => exact isLocal_of_nil
  | unnumbered _ ending | answered ending => exact finish_isLocal caller ending
  | unframed s ending => exact finish_isLocal caller ending

theorem GivenUp.isLocal {caller : Nat} {q : Progress σ} (h : c.GivenUp caller q) :
    ∀ o ∈ q.2, o.isLocal := by
  cases h with
  | unchanged => exact isLocal_of_nil
  | finished cause => exact finish_isLocal caller (.failed cause)

theorem answer_outputs (handler : Nat) (result : Except Fault Bytes) :
    (c.answer p handler result).2 = [] := by
  have h := answer_answered p c handler result
  generalize c.answer p handler result = q at h ⊢
  cases h with
  | unchanged | lost | queued => rfl

theorem timeOutHandshake_isLocal (waited : Span) :
    ∀ o ∈ (c.timeOutHandshake waited).2, o.isLocal := by
  have h := timeOutHandshake_timedOut c waited
  generalize c.timeOutHandshake waited = q at h ⊢
  cases h with
  | unchanged => exact isLocal_of_nil
  | failed _ e => exact failHandshake_isLocal e

theorem stop_isLocal : ∀ o ∈ (c.stop p).2, o.isLocal := by
  have h := stop_stopped p c
  generalize c.stop p = q at h ⊢
  cases h with
  | tornDown => exact teardown_isLocal
  | farewell => exact isLocal_of_nil

/-- Events other than a write that finds its writer and an arrival are nobody else's business. -/
theorem step_isLocal {e : Event} (hw : ∀ w, e ≠ .write w) (ha : ∀ incoming, e ≠ .arrive incoming) :
    ∀ o ∈ (c.step p e).2, o.isLocal := by
  cases e with
  | start => exact start_isLocal
  | call caller expects context moment method payload => exact (call_called c caller ..).isLocal
  | advance caller => exact (advance_advanced p c caller).isLocal
  | expire caller => exact (expire_givenUp c caller).isLocal
  | cancel caller => exact (cancel_givenUp c caller).isLocal
  | abandon caller => exact isLocal_of_nil
  | write w => exact absurd rfl (hw w)
  | failWrite w fault =>
    simp only [step, failWrite]
    cases c.writers.lookup w with
    | none => exact isLocal_of_nil
    | some v =>
      intro o ho
      rcases List.mem_append.mp ho with ho | ho
      · exact teardown_isLocal o ho
      · exact resume_isLocal _ _ o ho
  | arrive incoming => exact absurd rfl (ha incoming)
  | answer handler result =>
    rw [step, answer_outputs]
    exact isLocal_of_nil
  | handshakeTimeout waited => exact timeOutHandshake_isLocal waited
  | stop => exact stop_isLocal

theorem arrive_outputs (incoming : Incoming) :
    (c.arrive p incoming).2.filterMap Output.frame? = [] ∧
    (c.arrive p incoming).2.filterMap Output.serve? =
      (c.takes p (.arrive incoming)).filterMap (fun t =>
        t.2.serve?.map fun s => (c.nextHandler, s.1, s.2)) ∧
    (c.arrive p incoming).2.filterMap Output.notify? =
      (c.takes p (.arrive incoming)).filterMap (·.2.notify?) := by
  have hlocal : ∀ {outputs : List Output}, (∀ o ∈ outputs, o.isLocal) →
      outputs.filterMap Output.frame? = [] ∧ outputs.filterMap Output.serve? = [] ∧
        outputs.filterMap Output.notify? = [] := fun h =>
    ⟨filterMap_of_isLocal (fun _ => Output.frame?_of_isLocal) h,
      filterMap_of_isLocal (fun _ => Output.serve?_of_isLocal) h,
      filterMap_of_isLocal (fun _ => Output.notify?_of_isLocal) h⟩
  have hleave : ∀ o ∈ c.leave.2, o.isLocal := teardown_isLocal
  unfold arrive
  split
  · rename_i hl
    rw [takes_of_ne_reading (by simp [hl])]
    exact hlocal (greet_isLocal incoming)
  · rename_i hl
    cases incoming with
    | frame f =>
      have h := follow_outputs (p := p)
        (c := { c with surroundings := (react p.side p.stack f c.surroundings).2 })
        (react p.side p.stack f c.surroundings).1
      simp only [takes_frame hl, accept, List.filterMap_cons, Output.frame?, Output.serve?,
        Output.notify?, List.filterMap_nil]
      refine ⟨h.1, ?_, ?_⟩
      · rw [h.2.1]
        cases (react p.side p.stack f c.surroundings).1.serve? <;> rfl
      · rw [h.2.2]
        cases (react p.side p.stack f c.surroundings).1.notify? <;> rfl
    | malformed e => exact hlocal (violate_isLocal _ _)
    | broken fault => exact hlocal hleave
    | ended => exact hlocal hleave
  · rename_i hr
    rw [takes_of_ne_reading hr]
    exact ⟨rfl, rfl, rfl⟩

variable (c) in
/-- The frame that an event puts on the wire: the one of a writer that finds the stream open. -/
def writes : Event → List Frame
  | .write w => if c.shut then [] else ((c.writers.lookup w).map (·.frame)).toList
  | _ => []

/-- The frames of writers that got the stream in vain. -/
def failedWrites (c : Connection σ) : Event → List Frame
  | .write w => if c.shut then ((c.writers.lookup w).map (·.frame)).toList else []
  | .failWrite w _ => ((c.writers.lookup w).map (·.frame)).toList
  | _ => []

/-- A writer that goes has written its frame, or failed to. -/
theorem writers_perm (hw : KeysBelow c.writers c.nextWriter) (e : Event) :
    (c.writers.map (·.2.frame)).Perm
      ((c.waitingWriters e).map (·.2.frame) ++ (c.writes e ++ c.failedWrites e)) := by
  have hdone : ∀ w, (c.writers.map (·.2.frame)).Perm
      ((c.writers.filter (·.1 ≠ w)).map (·.2.frame) ++
        ((c.writers.lookup w).map (·.frame)).toList) := by
    intro w
    cases h : c.writers.lookup w with
    | none =>
      rw [filter_ne_eq_self h, Option.map_none, Option.toList_none, List.append_nil]
    | some v =>
      have hperm := (perm_of_lookup hw.nodup h).map (·.2.frame)
      exact hperm.trans (List.perm_append_singleton _ _).symm
  cases e with
  | write w =>
    simp only [waitingWriters, doneWriter?, writes, failedWrites]
    cases c.shut with
    | true => simpa using hdone w
    | false => simpa using hdone w
  | failWrite w fault => simpa [waitingWriters, doneWriter?, writes, failedWrites] using hdone w
  | _ => simp [waitingWriters, doneWriter?, writes, failedWrites]

theorem write_outputs (w : Nat) :
    (c.write p w).2.filterMap Output.frame? = c.writes (.write w) ∧
    (c.write p w).2.filterMap Output.serve? = [] ∧
    (c.write p w).2.filterMap Output.notify? = [] := by
  cases h : c.writers.lookup w with
  | none =>
    simp only [write, writes, h]
    exact ⟨by split <;> rfl, rfl, rfl⟩
  | some v =>
    simp only [write, writes, h]
    have hlocal := fun result => resume_isLocal (p := p) (c := c.dropWriter w) result v.purpose
    have hf := fun result =>
      filterMap_of_isLocal (fun _ => Output.frame?_of_isLocal) (hlocal result)
    have hs := fun result =>
      filterMap_of_isLocal (fun _ => Output.serve?_of_isLocal) (hlocal result)
    have hn := fun result =>
      filterMap_of_isLocal (fun _ => Output.notify?_of_isLocal) (hlocal result)
    have hshut : (c.dropWriter w).shut = c.shut := rfl
    by_cases hc : c.shut = true
    · simp only [hshut, if_pos hc]
      exact ⟨hf _, hs _, hn _⟩
    · simp only [hshut, if_neg hc, List.filterMap_cons, Output.frame?, Output.serve?,
        Output.notify?, hf]
      exact ⟨rfl, hs _, hn _⟩

/-- The outputs of a step that reach the peer and the application. -/
theorem step_outputs (e : Event) :
    (c.step p e).2.filterMap Output.frame? = c.writes e ∧
    (c.step p e).2.filterMap Output.serve? =
      (c.takes p e).filterMap (fun t => t.2.serve?.map fun s => (c.nextHandler, s.1, s.2)) ∧
    (c.step p e).2.filterMap Output.notify? = (c.takes p e).filterMap (·.2.notify?) := by
  by_cases hw : ∃ w, e = .write w
  · obtain ⟨w, rfl⟩ := hw
    exact write_outputs w
  · by_cases ha : ∃ incoming, e = .arrive incoming
    · obtain ⟨incoming, rfl⟩ := ha
      exact arrive_outputs incoming
    · have hlocal := step_isLocal (p := p) (c := c) (fun w h => hw ⟨w, h⟩) fun i h => ha ⟨i, h⟩
      rw [filterMap_of_isLocal (fun _ => Output.frame?_of_isLocal) hlocal,
        filterMap_of_isLocal (fun _ => Output.serve?_of_isLocal) hlocal,
        filterMap_of_isLocal (fun _ => Output.notify?_of_isLocal) hlocal]
      cases e <;> simp_all [writes, takes]

theorem answer_handlers (handler : Nat) (result : Except Fault Bytes) :
    (c.answer p handler result).1.serving = c.busyHandlers (.answer handler result) ∧
      (c.answer p handler result).1.nextHandler = c.nextHandler := by
  have h := answer_answered p c handler result
  generalize c.answer p handler result = q at h ⊢
  cases h with
  | unchanged hnone => exact ⟨(filter_ne_eq_self hnone).symm, rfl⟩
  | lost => exact ⟨rfl, rfl⟩
  | queued _ _ hq =>
    have h := enqueue_handlers hq
    exact h

theorem start_handlers : SameHandlers c (c.start p).1 := by
  have h := start_started p c
  generalize c.start p = q at h ⊢
  cases h with
  | unchanged | refused | up => exact ⟨rfl, rfl⟩
  | failed _ _ e => exact failHandshake_handlers (c := { c with phase := .connecting }) e
  | greeting _ _ _ _ hq =>
    have h := enqueue_handlers hq
    exact h

theorem Called.handlers {caller : Nat} {q : Progress σ} (h : c.Called caller q) :
    SameHandlers c q.1 := by
  cases h with
  | unchanged | refused | joined => exact ⟨rfl, rfl⟩

theorem Advanced.handlers {caller : Nat} {q : Progress σ} (h : c.Advanced p caller q) :
    SameHandlers c q.1 := by
  cases h with
  | unchanged | numbered => exact ⟨rfl, rfl⟩
  | unnumbered _ ending | answered ending => exact finish_handlers caller ending
  | unframed s ending => exact finish_handlers (c := { c with surroundings := s }) caller ending
  | framed _ _ _ hq =>
    have h := enqueue_handlers hq
    exact h

theorem GivenUp.handlers {caller : Nat} {q : Progress σ} (h : c.GivenUp caller q) :
    SameHandlers c q.1 := by
  cases h with
  | unchanged => exact ⟨rfl, rfl⟩
  | finished cause => exact finish_handlers caller (.failed cause)

theorem timeOutHandshake_handlers (waited : Span) :
    SameHandlers c (c.timeOutHandshake waited).1 := by
  have h := timeOutHandshake_timedOut c waited
  generalize c.timeOutHandshake waited = q at h ⊢
  cases h with
  | unchanged => exact ⟨rfl, rfl⟩
  | failed _ e => exact failHandshake_handlers e

theorem stop_handlers : SameHandlers c (c.stop p).1 := by
  have h := stop_stopped p c
  generalize c.stop p = q at h ⊢
  cases h with
  | tornDown => exact teardown_handlers
  | farewell _ hq => exact enqueue_handlers hq

/-- Only arrivals and results touch the handlers. -/
theorem step_handlers {e : Event} (ha : ∀ incoming, e ≠ .arrive incoming)
    (hr : ∀ handler result, e ≠ .answer handler result) : SameHandlers c (c.step p e).1 := by
  cases e with
  | start => exact start_handlers
  | call caller expects context moment method payload => exact (call_called c caller ..).handlers
  | advance caller => exact (advance_advanced p c caller).handlers
  | expire caller => exact (expire_givenUp c caller).handlers
  | cancel caller => exact (cancel_givenUp c caller).handlers
  | abandon caller => exact ⟨forget_serving c caller, forget_nextHandler c caller⟩
  | write w =>
    simp only [step, write]
    cases c.writers.lookup w with
    | none => exact ⟨rfl, rfl⟩
    | some v =>
      dsimp only
      split
      · exact resume_handlers (c := c.dropWriter w) _ _
      · exact resume_handlers (c := c.dropWriter w) _ _
  | failWrite w fault =>
    simp only [step, failWrite]
    cases c.writers.lookup w with
    | none => exact ⟨rfl, rfl⟩
    | some v =>
      have h := resume_handlers (p := p) (c := (c.dropWriter w).teardown.1)
        (.error (if (c.dropWriter w).shut then TransportError.connectionClosed else .io fault))
        v.purpose
      simp only [SameHandlers, teardown_serving, teardown_nextHandler] at h
      exact h
  | arrive incoming => exact absurd rfl (ha incoming)
  | answer handler result => exact absurd rfl (hr handler result)
  | handshakeTimeout waited => exact timeOutHandshake_handlers waited
  | stop => exact stop_handlers

theorem arrive_handlers (incoming : Incoming) :
    (c.arrive p incoming).1.serving = c.serving ++
        (c.takes p (.arrive incoming)).filterMap (fun t =>
          t.2.serve?.map fun s => (c.nextHandler, s.1)) ∧
      (c.arrive p incoming).1.nextHandler =
        c.nextHandler + ((c.takes p (.arrive incoming)).filterMap (·.2.serve?)).length := by
  have hsame : ∀ {c' : Connection σ}, SameHandlers c c' →
      c'.serving = c.serving ++ [] ∧ c'.nextHandler = c.nextHandler + 0 := fun h =>
    ⟨h.1.trans (List.append_nil _).symm, h.2⟩
  unfold arrive
  split
  · rename_i hl
    rw [takes_of_ne_reading (by simp [hl])]
    refine hsame ?_
    cases incoming with
    | frame f =>
      simp only [greet]
      split
      · exact ⟨rfl, rfl⟩
      · exact failHandshake_handlers _
    | malformed e => exact failHandshake_handlers _
    | broken fault => exact failHandshake_handlers _
    | ended => exact failHandshake_handlers _
  · rename_i hl
    cases incoming with
    | frame f =>
      have h := follow_handlers (p := p)
        (c := { c with surroundings := (react p.side p.stack f c.surroundings).2 })
        (react p.side p.stack f c.surroundings).1
      simp only [takes_frame hl, accept, List.filterMap_cons, List.filterMap_nil]
      refine ⟨h.1.trans ?_, h.2.trans ?_⟩
      · cases (react p.side p.stack f c.surroundings).1.serve? <;> rfl
      · cases (react p.side p.stack f c.surroundings).1.serve? <;> rfl
    | malformed e => exact hsame (violate_handlers _ _)
    | broken fault => exact hsame leave_handlers
    | ended => exact hsame leave_handlers
  · rename_i hr
    rw [takes_of_ne_reading hr]
    exact hsame ⟨rfl, rfl⟩

/-- The handlers at work after a step: those that did not come to a result, and the one of a request
that was handed over. -/
theorem handlers_step (e : Event) :
    (c.step p e).1.serving = c.busyHandlers e ++
        (c.takes p e).filterMap (fun t => t.2.serve?.map fun s => (c.nextHandler, s.1)) ∧
      (c.step p e).1.nextHandler =
        c.nextHandler + ((c.takes p e).filterMap (·.2.serve?)).length := by
  by_cases ha : ∃ incoming, e = .arrive incoming
  · obtain ⟨incoming, rfl⟩ := ha
    exact arrive_handlers incoming
  · by_cases hr : ∃ handler result, e = .answer handler result
    · obtain ⟨handler, result, rfl⟩ := hr
      have h := answer_handlers (p := p) (c := c) handler result
      exact ⟨h.1.trans (List.append_nil _).symm, h.2⟩
    · have h := step_handlers (p := p) (c := c) (fun i he => ha ⟨i, he⟩)
        fun handler result he => hr ⟨handler, result, he⟩
      have htakes : c.takes p e = [] := by
        cases e <;> simp_all [takes]
      have hbusy : c.busyHandlers e = c.serving := by
        cases e <;> simp_all [busyHandlers]
      rw [htakes, hbusy]
      exact ⟨h.1.trans (List.append_nil _).symm, h.2⟩

theorem takes_cases (e : Event) : c.takes p e = [] ∨ ∃ f, e = .arrive (.frame f) ∧
    c.loop = .reading ∧ c.takes p e = [(f, (react p.side p.stack f c.surroundings).1)] := by
  unfold takes
  split
  · rename_i f
    by_cases hl : c.loop = .reading
    · exact Or.inr ⟨f, rfl, hl, if_pos hl⟩
    · exact Or.inl (if_neg hl)
  · exact Or.inl rfl

theorem of_mem_takes {e : Event} {f : Frame} {r : Reaction} (h : (f, r) ∈ c.takes p e) :
    e = .arrive (.frame f) ∧ r = (react p.side p.stack f c.surroundings).1 := by
  rcases takes_cases (p := p) (c := c) e with hnone | ⟨f', rfl, -, hone⟩
  · rw [hnone] at h
    cases h
  · rw [hone] at h
    cases List.mem_singleton.mp h
    exact ⟨rfl, rfl⟩

/-- Handlers keep their numbers to themselves. -/
theorem handlersBelow_step {e : Event} (h : KeysBelow c.serving c.nextHandler) :
    KeysBelow (c.step p e).1.serving (c.step p e).1.nextHandler := by
  have hbusy : KeysBelow (c.busyHandlers e) c.nextHandler := by
    unfold busyHandlers
    split
    · exact h.filter _
    · exact h
  obtain ⟨hs, hn⟩ := handlers_step (p := p) (c := c) e
  rcases takes_cases (p := p) (c := c) e with htakes | ⟨f, -, -, htakes⟩
  · rw [htakes] at hs hn
    rw [hs, hn, List.filterMap_nil, List.append_nil]
    exact hbusy
  · rw [htakes] at hs hn
    rw [hs, hn]
    cases hr : (react p.side p.stack f c.surroundings).1.serve? with
    | none => simpa [hr] using hbusy
    | some request => simpa [hr] using hbusy.concat request.1

theorem handlersBelow_run (s : σ) (es : List Event) :
    KeysBelow (run p (.new p s) es).1.serving (run p (.new p s) es).1.nextHandler :=
  run_preserves (I := fun c => KeysBelow c.serving c.nextHandler)
    (fun _ _ => handlersBelow_step) (.nil _) es

section Run

variable (es : List Event)

/-- The frames that a run puts on the wire are those of its writers that found the stream open. -/
theorem frames_eq_trail : (run p c es).2.filterMap Output.frame? = trail p writes c es := by
  rw [outputs_eq_trail, ← trail_filterMap]
  congr
  funext c e
  exact (step_outputs e).1

/-- The handlers that are put to work in a step. -/
abbrev serves (p : Profile σ) (c : Connection σ) (e : Event) : List (Nat × UInt64 × Delivery) :=
  (c.takes p e).filterMap fun t => t.2.serve?.map fun s => (c.nextHandler, s.1, s.2)

/-- The requests that a run hands to handlers are those it takes in and lets pass. -/
theorem serves_eq_trail :
    (run p c es).2.filterMap Output.serve? = trail p (serves p) c es := by
  rw [outputs_eq_trail, ← trail_filterMap]
  congr
  funext c e
  exact (step_outputs e).2.1

theorem notifies_eq_trail : (run p c es).2.filterMap Output.notify? =
    (trail p (takes p) c es).filterMap (·.2.notify?) := by
  rw [outputs_eq_trail, ← trail_filterMap, ← trail_filterMap]
  congr
  funext c e
  exact (step_outputs e).2.2

/-- What is true of each frame when it is queued, and stays true, is true of all frames that are
queued or on the wire. -/
theorem frames_run (s : σ) {Q : List Event → Frame → Prop}
    (hmono : ∀ front e f, Q front f → Q (front ++ [e]) f)
    (hnew : ∀ front e purpose f, Enlists p (run p (.new p s) front).1 e purpose f →
      Q (front ++ [e]) f) :
    (∀ x ∈ (run p (.new p s) es).1.writers, Q es x.2.frame) ∧
      ∀ f ∈ trail p writes (.new p s) es, Q es f := by
  refine run_history (c := .new p s) (I := fun es c =>
    (∀ x ∈ c.writers, Q es x.2.frame) ∧ ∀ f ∈ trail p writes (.new p s) es, Q es f)
    ⟨fun x hx => absurd hx List.not_mem_nil, fun f hf => absurd hf List.not_mem_nil⟩
    (fun front e ih => ?_) es
  obtain ⟨hqueued, hwritten⟩ := ih
  rw [trail_concat]
  constructor
  · intro x hx
    rcases writers_step (p := p) (c := (run p (.new p s) front).1) e with
      ⟨hw, -⟩ | ⟨purpose, f, hf, -, hw, -⟩
    · rw [hw] at hx
      unfold waitingWriters at hx
      split at hx
      · exact hmono _ _ _ (hqueued x (List.mem_filter.mp hx).1)
      · exact hmono _ _ _ (hqueued x hx)
    · rw [hw] at hx
      rcases List.mem_append.mp hx with hx | hx
      · exact hmono _ _ _ (hqueued x hx)
      · rw [List.mem_singleton.mp hx]
        exact hnew front e purpose f hf
  · intro f hf
    rcases List.mem_append.mp hf with hf | hf
    · exact hmono _ _ _ (hwritten f hf)
    · have hperm := writers_perm (writersBelow_run (p := p) s front) e
      have hmem := hperm.mem_iff.mpr
        (List.mem_append_right _ (List.mem_append_left _ hf))
      obtain ⟨x, hx, rfl⟩ := List.mem_map.mp hmem
      exact hmono _ _ _ (hqueued x hx)

end Run

end Connection

end Rpc
