import Rpc.Proofs.Connection.Fields

/-! # Where each operation leads

Each operation of a connection leads to one of a few states. They are listed here once, with what is
known where they are reached, so that what is proved of an operation has one case for each of them.
-/
namespace Rpc

/-- Whether a frame is one of a receive loop that runs. -/
def Purpose.isOfLoop : Purpose → Bool
  | .greetingBack | .turnDown | .violation => true
  | _ => false

namespace Connection

open Message

variable {σ : Type} (p : Profile σ) (c : Connection σ)

/-- A frame has been written or could not be, and what waited for it goes on. -/
inductive Resumed (purpose : Purpose) : Progress σ → Prop
  | unchanged : Resumed purpose (c, [])
  | awaiting {caller : Nat} {n : UInt64} {k : Call} (hk : c.call? caller = some k)
      (hs : k.stage = .writing n) (hx : k.expectsAnswer = true) :
      Resumed purpose (c.setStage caller (.awaiting n), [])
  | finished (caller : Nat) (ending : Ending) : Resumed purpose (c.finish caller ending)
  | greeted (hloop : c.loop = .greeting) : Resumed purpose ({ c with loop := .greeted }, [])
  | reading (hpurpose : purpose.isOfLoop = true) : Resumed purpose ({ c with loop := .reading }, [])
  | failed (hloop : c.loop = .greeting) (e : TransportError) : Resumed purpose (c.failHandshake e)
  | left (hpurpose : purpose.isOfLoop = true) : Resumed purpose c.leave
  | tornDown : Resumed purpose c.teardown

theorem resume_resumed (result : Except TransportError Unit) (purpose : Purpose) :
    c.Resumed purpose (c.resume p result purpose) := by
  cases purpose with
  | call caller n =>
    simp only [resume]
    cases hk : c.call? caller with
    | none => exact .unchanged
    | some k =>
      by_cases hs : k.stage = .writing n
      · simp only [if_pos hs]
        cases result with
        | error e => exact .finished caller _
        | ok _ =>
          cases hx : k.expectsAnswer with
          | true => exact .awaiting hk hs hx
          | false => exact .finished caller .sent
      · simp only [if_neg hs]
        exact .unchanged
  | answer => exact .unchanged
  | greeting =>
    simp only [resume]
    cases hloop : c.loop with
    | greeting =>
      cases result with
      | ok _ => exact .greeted hloop
      | error e => exact .failed hloop _
    | unstarted | greeted | reading | paused | «over» => exact .unchanged
  | greetingBack =>
    cases result with
    | ok _ => exact .reading rfl
    | error e => exact .left rfl
  | turnDown => exact .reading rfl
  | violation => exact .left rfl
  | farewell => exact .tornDown

/-- A frame of the receive loop goes to a writer, or cannot be encoded. -/
inductive Said (purpose : Purpose) (f : Except CodecError Frame) (otherwise : Progress σ) :
    Progress σ → Prop
  | otherwise : Said purpose f otherwise otherwise
  | paused {g : Frame} {after : Connection σ} (hf : f = .ok g)
      (hq : c.enqueue p purpose g = .ok after) :
      Said purpose f otherwise ({ after with loop := .paused }, [])

theorem say_said (purpose : Purpose) (f : Except CodecError Frame)
    (otherwise : Connection σ → Progress σ) :
    c.Said p purpose f (otherwise c) (c.say p purpose f otherwise) := by
  cases f with
  | error e => exact .otherwise
  | ok g =>
    simp only [say]
    cases hq : c.enqueue p purpose g with
    | error e => exact .otherwise
    | ok after => exact .paused rfl hq

/-! ## Calls and handlers -/

/-- A caller comes with a call. -/
inductive Called (caller : Nat) : Progress σ → Prop
  | unchanged : Called caller (c, [])
  | refused (cause : CallError) : Called caller (c, [.ended caller (.failed cause)])
  | joined {k : Call} (hk : k.stage = .admitted) :
      Called caller ({ c with calls := c.calls ++ [(caller, k)] }, [])

theorem call_called (caller : Nat) (expects : Bool) (x : CallContext) (m : Moment) (method : String)
    (payload : Bytes) : c.Called caller (c.call caller expects x m method payload) := by
  unfold call
  cases c.call? caller with
  | some k => exact .unchanged
  | none =>
    cases gate c.phase expects x m with
    | some cause => exact .refused cause
    | none => exact .joined rfl

/-- A caller goes on by itself. -/
inductive Advanced (caller : Nat) : Progress σ → Prop
  | unchanged : Advanced caller (c, [])
  /-- The table is closed. -/
  | unnumbered (hclosed : c.table.closed = true) (ending : Ending) :
      Advanced caller (c.finish caller ending)
  | numbered {k : Call} (hk : c.call? caller = some k) (hs : k.stage = .admitted)
      (hopen : k.expectsAnswer = true → c.table.closed = false) (table : CallTable) (n : UInt64) :
      Advanced caller ({ c with table }.setStage caller (.numbered n), [])
  | unframed (s : σ) (ending : Ending) :
      Advanced caller ({ c with surroundings := s }.finish caller ending)
  | framed {k : Call} {n : UInt64} {s : σ} {f : Frame} {after : Connection σ}
      (hk : c.call? caller = some k) (hs : k.stage = .numbered n)
      (hf : (messageFrame p.stack n (if k.expectsAnswer then .request else .event)
        k.context.baggage (some k.method) k.payload c.surroundings).1 = .ok f)
      (hq : { c with surroundings := s }.enqueue p (.call caller n) f = .ok after) :
      Advanced caller (after.setStage caller (.writing n), [])
  | answered (ending : Ending) : Advanced caller (c.finish caller ending)

theorem number_advanced {caller : Nat} {k : Call} (hk : c.call? caller = some k)
    (hs : k.stage = .admitted) : c.Advanced p caller (c.number caller k) := by
  unfold number
  cases hx : k.expectsAnswer with
  | false => exact .numbered hk hs (by simp [hx]) _ _
  | true =>
    cases hclosed : c.table.closed with
    | true =>
      simp only [CallTable.register, hclosed, if_true]
      exact .unnumbered hclosed _
    | false =>
      simp only [CallTable.register, hclosed, if_true, Bool.false_eq_true, if_false]
      exact .numbered hk hs (fun _ => hclosed) _ _

theorem frame_advanced {caller : Nat} {k : Call} {n : UInt64} (hk : c.call? caller = some k)
    (hs : k.stage = .numbered n) : c.Advanced p caller (c.frame p caller k n) := by
  simp only [frame]
  generalize hbuilt : messageFrame p.stack n (if k.expectsAnswer then .request else .event)
    k.context.baggage (some k.method) k.payload c.surroundings = built
  obtain ⟨result, s⟩ := built
  cases result with
  | error e => exact .unframed s _
  | ok f =>
    dsimp only
    cases hq : { c with surroundings := s }.enqueue p (.call caller n) f with
    | error e => exact .unframed s _
    | ok after => exact .framed hk hs (by rw [hbuilt]) hq

theorem advance_advanced (caller : Nat) : c.Advanced p caller (c.advance p caller) := by
  unfold advance
  cases hk : c.call? caller with
  | none => exact .unchanged
  | some k =>
    cases hs : k.stage with
    | admitted =>
      simp only [hs]
      exact number_advanced p c hk hs
    | numbered n =>
      simp only [hs]
      exact frame_advanced p c hk hs
    | writing n =>
      simp only [hs]
      exact .unchanged
    | awaiting n =>
      simp only [hs]
      cases k.inbox with
      | none => exact .unchanged
      | some reply =>
        cases reply with
        | ok payload => exact .answered _
        | error e => exact .answered _

/-- A caller gives up, if its call has come so far. -/
inductive GivenUp (caller : Nat) : Progress σ → Prop
  | unchanged : GivenUp caller (c, [])
  | finished (cause : CallError) : GivenUp caller (c.finish caller (.failed cause))

theorem expire_givenUp (caller : Nat) : c.GivenUp caller (c.expire caller) := by
  unfold expire
  cases c.call? caller with
  | none => exact .unchanged
  | some k =>
    dsimp only
    cases k.stage with
    | admitted | numbered | writing => exact .unchanged
    | awaiting n =>
      cases k.context.deadline with
      | none => exact .unchanged
      | some d => exact .finished _

theorem cancel_givenUp (caller : Nat) : c.GivenUp caller (c.cancel caller) := by
  unfold cancel
  cases c.call? caller with
  | none => exact .unchanged
  | some k =>
    dsimp only
    cases k.stage with
    | admitted | numbered | writing => exact .unchanged
    | awaiting n =>
      cases k.context.token with
      | none => exact .unchanged
      | some t => exact .finished _

/-- A handler comes to a result. -/
inductive Answered (handler : Nat) (result : Except Fault Bytes) : Progress σ → Prop
  | unchanged (hnone : c.serving.lookup handler = none) : Answered handler result (c, [])
  | lost (s : σ) : Answered handler result
      ({ c with serving := c.serving.filter (·.1 ≠ handler), surroundings := s }, [])
  | queued {n : UInt64} {s : σ} {f : Frame} {after : Connection σ}
      (hn : c.serving.lookup handler = some n)
      (hf : (finalAnswer p.stack n result c.surroundings).1 = some f)
      (hq : { c with serving := c.serving.filter (·.1 ≠ handler), surroundings := s }.enqueue p
        .answer f = .ok after) : Answered handler result (after, [])

theorem answer_answered (handler : Nat) (result : Except Fault Bytes) :
    c.Answered p handler result (c.answer p handler result) := by
  unfold answer
  cases hn : c.serving.lookup handler with
  | none => exact .unchanged hn
  | some n =>
    dsimp only
    generalize hbuilt : finalAnswer p.stack n result c.surroundings = built
    obtain ⟨frame, s⟩ := built
    cases frame with
    | none => exact .lost s
    | some f =>
      dsimp only
      cases hq : Connection.enqueue
        { c with serving := c.serving.filter (·.1 ≠ handler), surroundings := s } p .answer f with
      | error e => exact .lost s
      | ok after => exact .queued hn (by rw [hbuilt]) hq

/-! ## Beginning and end -/

inductive Started : Progress σ → Prop
  | unchanged : Started (c, [])
  /-- A server whose stream has been shut does not come up. -/
  | refused (hside : p.side = .server) (hloop : c.loop = .unstarted) (hshut : c.shut = true) :
      Started ({ c with loop := .over }, [.started (.error .usedAfterShutdown)])
  | up (hside : p.side = .server) (hloop : c.loop = .unstarted) (hopen : c.shut = false) :
      Started c.establish
  | failed (hside : p.side = .client) (hloop : c.loop = .unstarted) (e : TransportError) :
      Started ({ c with phase := .connecting }.failHandshake e)
  | greeting (hside : p.side = .client) (hloop : c.loop = .unstarted) (hopen : c.shut = false)
      {f : Frame} {after : Connection σ} (hf : noticeFrame .greeting = .ok f)
      (hq : { c with phase := .connecting }.enqueue p .greeting f = .ok after) :
      Started ({ after with loop := .greeting }, [])

theorem start_started : c.Started p (c.start p) := by
  unfold start
  by_cases hloop : c.loop = .unstarted
  · rw [if_neg (not_not_intro hloop)]
    cases hside : p.side with
    | server =>
      by_cases hshut : c.shut = true
      · simp only [if_pos hshut]
        exact .refused hside hloop hshut
      · simp only [if_neg hshut]
        exact .up hside hloop (eq_false_of_ne_true hshut)
    | client =>
      by_cases hshut : c.shut = true
      · simp only [if_pos hshut]
        exact .failed hside hloop _
      · simp only [if_neg hshut]
        cases hf : noticeFrame .greeting with
        | error e => exact .failed hside hloop _
        | ok f =>
          dsimp only
          cases hq : Connection.enqueue { c with phase := .connecting } p .greeting f with
          | error e => exact .failed hside hloop _
          | ok after => exact .greeting hside hloop (eq_false_of_ne_true hshut) hf hq
  · rw [if_pos hloop]
    exact .unchanged

inductive TimedOut : Progress σ → Prop
  | unchanged : TimedOut (c, [])
  | failed (hloop : c.loop = .greeting ∨ c.loop = .greeted) (e : TransportError) :
      TimedOut (c.failHandshake e)

theorem timeOutHandshake_timedOut (waited : Span) : c.TimedOut (c.timeOutHandshake waited) := by
  unfold timeOutHandshake
  cases hloop : c.loop with
  | greeting => exact .failed (Or.inl hloop) _
  | greeted => exact .failed (Or.inr hloop) _
  | unstarted | reading | paused | «over» => exact .unchanged

inductive Stopped : Progress σ → Prop
  | tornDown : Stopped c.teardown
  | farewell {f : Frame} {after : Connection σ} (hf : noticeFrame .close = .ok f)
      (hq : c.enqueue p .farewell f = .ok after) : Stopped (after, [])

theorem stop_stopped : c.Stopped p (c.stop p) := by
  unfold stop
  by_cases hup : c.phase = .connected
  · rw [if_pos hup]
    cases hf : noticeFrame .close with
    | error e => exact .tornDown
    | ok f =>
      dsimp only
      cases hq : c.enqueue p .farewell f with
      | error e => exact .tornDown
      | ok after => exact .farewell hf hq
  · rw [if_neg hup]
    exact .tornDown

end Connection

end Rpc
