import Rpc.Proofs.Connection.Cargo
import Rpc.Proofs.Frame.Taking

/-! # What handlers look up in a frame

The handlers of incoming frames look up parts that a frame of its kind must have. A frame comes to
them only from the decoder, and no frame of the decoder lacks such a part, so what a handler would
do without it never matters, whatever octets the peer sends.
-/
namespace Rpc

open Message

section Lookups

variable {σ : Type}

/-- The reaction to a control frame by a handler that is at a loss without its content. -/
def noticeReaction? (side : Side) (f : Frame) : Option Reaction := do
  let content ← f.content? .control
  return match Notice.ofBytes content with
    | .ok n => reactToNotice side n
    | .error e => malformed e

/-- The reaction to a request or an event by a handler that is at a loss without a heading, and
without a payload once the layers have let the message through or refused it. -/
def messageReaction? (stack : Option (Stack σ)) (f : Frame) (s : σ) : Option (Reaction × σ) :=
  match frameBaggage f with
  | .error e => some (malformed e, s)
  | .ok b => do
    let content ← f.content? .heading
    match Heading.ofBytes content with
    | .error e => return (malformed e, s)
    | .ok h =>
      let a := inspect stack f.kind b s
      match a.verdict with
      | .error r =>
        return (if f.kind = .request then .turnDown f.conversation r.fault else .readOn, a.state)
      | .ok () =>
        let payload ← f.content? .payload
        let d : Delivery := ⟨h.method, payload, b⟩
        return (if f.kind = .request then .serve f.conversation d else .notify d, a.state)

/-- The reaction to an answer by a handler that is at a loss without a payload. -/
def answerReaction? (stack : Option (Stack σ)) (f : Frame) (s : σ) : Option (Reaction × σ) :=
  match frameBaggage f with
  | .error e => some (malformed e, s)
  | .ok b => do
    let payload ← f.content? .payload
    let decoded : Except CodecError (Except Fault Bytes) :=
      if f.kind = .response then .ok (.ok payload)
      else
        match Fault.ofBytes payload with
        | .ok fault => .ok (.error fault)
        | .error e => .error e
    match decoded with
    | .error e => return (malformed e, s)
    | .ok result =>
      let a := inspect stack f.kind b s
      return (.complete f.conversation
        (match a.verdict, result with
          | .error r, _ => .error r.callError
          | .ok (), .ok payload => .ok payload
          | .ok (), .error fault => .error (serviceError fault)),
        a.state)

/-- The reaction by handlers that are at a loss without what they look up. -/
def reaction? (side : Side) (stack : Option (Stack σ)) (f : Frame) (s : σ) :
    Option (Reaction × σ) :=
  match f.kind with
  | .control => (noticeReaction? side f).map (·, s)
  | .request | .event => messageReaction? stack f s
  | .response | .error => answerReaction? stack f s

namespace Frame.Complete

variable {f : Frame}

theorem noticeReaction (h : f.Complete) (hk : f.kind = .control) (side : Side) :
    noticeReaction? side f =
      some (match frameNotice f with
        | .ok n => reactToNotice side n
        | .error e => malformed e) := by
  obtain ⟨content, hparts⟩ := h.control hk
  have hcontent : f.content? .control = some content := by
    rw [content?, hparts]
    rfl
  simp only [noticeReaction?, frameNotice, hcontent]
  rfl

theorem messageReaction (h : f.Complete) (hk : f.kind.namesMethod = true)
    (stack : Option (Stack σ)) (s : σ) :
    messageReaction? stack f s = some (reactToMessage stack f s) := by
  obtain ⟨hheading, hpayload⟩ := h.message hk
  obtain ⟨heading, hheading⟩ := Option.isSome_iff_exists.mp hheading
  obtain ⟨payload, hpayload⟩ := Option.isSome_iff_exists.mp hpayload
  unfold messageReaction? reactToMessage
  cases frameBaggage f with
  | error e => rfl
  | ok b =>
    simp only [frameHeading, framePayload, hheading, hpayload, bind, Option.bind_some]
    cases Heading.ofBytes heading with
    | error e => rfl
    | ok g =>
      simp only
      cases (inspect stack f.kind b s).verdict <;> rfl

theorem answerReaction (h : f.Complete) (hk : f.kind.isAnswer = true) (stack : Option (Stack σ))
    (s : σ) : answerReaction? stack f s = some (reactToAnswer stack f s) := by
  obtain ⟨payload, hpayload⟩ := Option.isSome_iff_exists.mp (h.answer hk).1
  unfold answerReaction? reactToAnswer
  cases frameBaggage f with
  | error e => rfl
  | ok b =>
    simp only [frameResult, framePayload, hpayload, bind, Option.bind_some, Option.getD_some]
    by_cases hresponse : f.kind = .response
    · simp only [if_pos hresponse]
      rfl
    · simp only [if_neg hresponse]
      cases Fault.ofBytes payload <;> rfl

theorem reaction (h : f.Complete) (side : Side) (stack : Option (Stack σ)) (s : σ) :
    reaction? side stack f s = some (react side stack f s) := by
  unfold reaction? react
  cases hk : f.kind with
  | control =>
    simp only [h.noticeReaction hk]
    rfl
  | request | event => exact h.messageReaction (by rw [hk]; rfl) stack s
  | response | error => exact h.answerReaction (by rw [hk]; rfl) stack s

end Frame.Complete

/-- A request without a heading, had it come through, would leave its handler at a loss. -/
example : let request : Frame := ⟨1, .request, [⟨.payload, [7]⟩]⟩
    reaction? .server (none : Option (Stack Unit)) request () = none := rfl

end Lookups

def Event.frame? : Event → Option Frame
  | .arrive (.frame f) => some f
  | _ => none

theorem Event.frame?_eq_some_iff {e : Event} {f : Frame} :
    e.frame? = some f ↔ e = .arrive (.frame f) := by
  constructor
  · intro h
    unfold frame? at h
    split at h <;> cases h
    rfl
  · rintro rfl
    rfl

namespace Receiver

open Archive Connection

/-- Nothing that must be there is missing. The decoder asks for no octet behind the end of its
buffer or of a body, however the octets of the peer are cut or counted; what it gives has the parts
that its kind says, in their order; and so a handler that is at a loss without a part it must look
up reacts to each frame that an end takes in just as the handlers do. -/
theorem nothing_missing :
    (∀ (limit : Nat) (b : Bytes), (Taking.frame limit).run b =
      some ((Frame.read limit b).outcome, (Frame.read limit b).rest b)) ∧
    (∀ (limit : Nat) (b : Bytes) (f : Frame),
      (Frame.read limit b).outcome = .ok (some f) → f.Complete) ∧
    ∀ (σ : Type) (p : Profile σ) (r : Receiver σ) (es : List Event),
      ∀ f ∈ (eventsOf p r es).filterMap Event.frame?,
      ∀ (side : Side) (stack : Option (Stack σ)) (s : σ),
        reaction? side stack f s = some (react side stack f s) := by
  refine ⟨Taking.run_frame, fun limit b f hf => ?_, fun σ p r es f hf => ?_⟩
  · exact Frame.complete_of_read (Frame.outcome_eq_some_iff.mp hf)
  · obtain ⟨e, he, hframe⟩ := List.mem_filterMap.mp hf
    obtain rfl := Event.frame?_eq_some_iff.mp hframe
    obtain ⟨b, rest, hread⟩ := read_of_mem_eventsOf he
    exact (Frame.complete_of_read hread).reaction

theorem shuffledRequest_nothing_missing :
    (Taking.frame 150).run shuffledRequest.bytes = some (.ok (some shuffledRequest), []) ∧
    shuffledRequest.Complete ∧
    shuffledRequest ∈
      (eventsOf smallServer (new smallServer ()) shuffledRun).filterMap Event.frame? ∧
    reaction? .server (none : Option (Stack Unit)) shuffledRequest () =
      some (react .server none shuffledRequest ()) := by
  obtain ⟨hrun, hcomplete, hreaction⟩ := nothing_missing
  have hread : Frame.read 150 shuffledRequest.bytes = .frame shuffledRequest [] := by
    decide +kernel
  have htaken : shuffledRequest ∈
      (eventsOf smallServer (new smallServer ()) shuffledRun).filterMap Event.frame? := by
    decide +kernel
  refine ⟨?_, hcomplete 150 shuffledRequest.bytes _ (by rw [hread]; rfl), htaken,
    hreaction _ _ _ _ _ htaken _ _ _⟩
  rw [hrun, hread]
  rfl

end Receiver

end Rpc
