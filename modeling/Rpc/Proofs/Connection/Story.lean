import Rpc.Connection.Incoming
import Rpc.Proofs.Connection.Outputs
import Rpc.Proofs.Frame.Draining

/-! # What a stream tells its receiver

All that a receiver makes of a stream is fixed by its octets: the frames up to the one that ends the
story, and how it ends. It ends with a violation if octets make no frame or contents do not decode,
and with a parting if the peer says goodbye, complains, or closes its end, be it inside a frame.
-/
namespace Rpc

open Message

/-- How a story ends. The peer is told of its violation. -/
inductive Finale
  | violation (code : UInt32) (details : String)
  | parting
  deriving DecidableEq

namespace Finale

def ofFlaw (e : CodecError) : Finale := .violation Notice.malformedFrame e.message

def complaint? : Finale → Option (UInt32 × String)
  | .violation code details => some (code, details)
  | .parting => none

end Finale

/-- How the story ends with two contents of a message, if they do not decode. -/
def finaleOf? {α β : Type} : Except CodecError α → Except CodecError β → Option Finale
  | .error e, _ | .ok _, .error e => some (.ofFlaw e)
  | .ok _, .ok _ => none

def Message.Notice.finale? (side : Side) : Notice → Option Finale
  | .hello version =>
    if side = .server ∧ version ≠ Notice.protocolVersion then
      some (.violation Notice.versionMismatch (versionText version))
    else none
  | .violation _ _ | .close => some .parting

def Frame.finale? (side : Side) (f : Frame) : Option Finale :=
  match f.kind with
  | .control =>
    match frameNotice f with
    | .ok notice => notice.finale? side
    | .error e => some (.ofFlaw e)
  | .request | .event => finaleOf? (frameBaggage f) (frameHeading f)
  | .response | .error => finaleOf? (frameBaggage f) (frameResult f)

structure Story where
  frames : List Frame
  finale : Finale

namespace Story

/-- The story of decoded frames, behind which the decoder may be stuck. -/
def ofItems (side : Side) (stuck : Option CodecError) : List (Except CodecError Frame) → Story
  | [] =>
    match stuck with
    | some e => ⟨[], .ofFlaw e⟩
    | none => ⟨[], .parting⟩
  | .error e :: _ => ⟨[], .ofFlaw e⟩
  | .ok f :: items =>
    match f.finale? side with
    | some finale => ⟨[], finale⟩
    | none =>
      let rest := ofItems side stuck items
      ⟨f :: rest.frames, rest.finale⟩

end Story

/-- The story of a stream that has ended. -/
def story (side : Side) (limit : Nat) (b : Bytes) : Story :=
  let d := Frame.drain limit b
  .ofItems side d.stuck d.items

/-! ## Telling it piece by piece -/

section Pieces

variable {side : Side} {limit : Nat} {b rest : Bytes} {e : CodecError} {f : Frame}

theorem story_of_incomplete (h : Frame.read limit b = .incomplete) :
    story side limit b = ⟨[], .parting⟩ := by
  rw [story, Frame.drain_of_incomplete h]
  rfl

theorem story_of_stuck (h : Frame.read limit b = .stuck e) :
    story side limit b = ⟨[], .ofFlaw e⟩ := by
  rw [story, Frame.drain_of_stuck h]
  rfl

theorem story_of_refused (h : Frame.read limit b = .refused e rest) :
    story side limit b = ⟨[], .ofFlaw e⟩ := by
  rw [story, Frame.drain_of_refused h]
  rfl

theorem story_of_last {finale : Finale} (h : Frame.read limit b = .frame f rest)
    (hf : f.finale? side = some finale) : story side limit b = ⟨[], finale⟩ := by
  rw [story, Frame.drain_of_frame h]
  simp only [Story.ofItems, hf]

theorem story_of_frame (h : Frame.read limit b = .frame f rest) (hf : f.finale? side = none) :
    story side limit b = ⟨f :: (story side limit rest).frames, (story side limit rest).finale⟩ := by
  rw [story, Frame.drain_of_frame h]
  simp only [Story.ofItems, hf]
  rfl

end Pieces

/-! ## What the receiver does about it -/

/-- How a receiver ends that follows a reaction, if it does. -/
def Reaction.finale? : Reaction → Option Finale
  | .violation code details => some (.violation code details)
  | .leave => some .parting
  | _ => none

theorem reactToNotice_finale? (side : Side) (notice : Notice) :
    (reactToNotice side notice).finale? = notice.finale? side := by
  cases notice with
  | hello version =>
    cases side with
    | client => rfl
    | server => by_cases hv : version = Notice.protocolVersion <;>
        simp [reactToNotice, Notice.finale?, hv, Reaction.finale?]
  | violation code details => rfl
  | close => rfl

section Reactions

variable {σ : Type} (stack : Option (Stack σ)) (f : Frame) (s : σ)

theorem reactToMessage_finale? : (reactToMessage stack f s).1.finale? =
    finaleOf? (frameBaggage f) (frameHeading f) := by
  unfold reactToMessage
  cases frameBaggage f with
  | error e => rfl
  | ok b =>
    cases frameHeading f with
    | error e => rfl
    | ok h =>
      simp only [finaleOf?]
      cases (inspect stack f.kind b s).verdict <;> by_cases hk : f.kind = .request <;>
        simp [hk, Reaction.finale?]

theorem reactToAnswer_finale? : (reactToAnswer stack f s).1.finale? =
    finaleOf? (frameBaggage f) (frameResult f) := by
  unfold reactToAnswer
  cases frameBaggage f with
  | error e => rfl
  | ok b =>
    cases frameResult f with
    | error e => rfl
    | ok result => rfl

/-- Whether a frame is the last does not depend on the layers. -/
theorem react_finale? (side : Side) : (react side stack f s).1.finale? = f.finale? side := by
  unfold react Frame.finale?
  cases f.kind with
  | control =>
    cases frameNotice f with
    | ok notice => exact reactToNotice_finale? side notice
    | error e => rfl
  | request => exact reactToMessage_finale? stack f s
  | event => exact reactToMessage_finale? stack f s
  | response => exact reactToAnswer_finale? stack f s
  | error => exact reactToAnswer_finale? stack f s

end Reactions

/-! ## What a frame gives away

A frame meets the layers in the state that they are in when it is taken in.
-/

def Reaction.reply? : Reaction → Option (UInt64 × Reply)
  | .complete n reply => some (n, reply)
  | _ => none

namespace Frame

variable {σ : Type} (stack : Option (Stack σ))

/-- What the frame of a message says, if the layers let it pass. -/
def delivery? (f : Frame) (s : σ) : Option Delivery :=
  match frameBaggage f, frameHeading f with
  | .ok b, .ok h =>
    match (inspect stack f.kind b s).verdict with
    | .ok () => some ⟨h.method, framePayload f, b⟩
    | .error _ => none
  | _, _ => none

/-- The request that goes to a handler. -/
def request? (x : Frame × σ) : Option (UInt64 × Delivery) :=
  if x.1.kind = .request then (x.1.delivery? stack x.2).map (x.1.conversation, ·) else none

def event? (x : Frame × σ) : Option Delivery :=
  if x.1.kind = .event then x.1.delivery? stack x.2 else none

/-- The reply that goes to a call; layers that refuse an answer speak in its place. -/
def reply? (x : Frame × σ) : Option (UInt64 × Reply) :=
  if x.1.kind.isAnswer then
    match frameBaggage x.1, frameResult x.1 with
    | .ok b, .ok result =>
      some (x.1.conversation, match (inspect stack x.1.kind b x.2).verdict, result with
        | .error r, _ => .error r.callError
        | .ok (), .ok payload => .ok payload
        | .ok (), .error fault => .error (serviceError fault))
    | _, _ => none
  else none

end Frame

section Gifts

variable {σ : Type} (side : Side) (stack : Option (Stack σ)) (f : Frame) (s : σ)

theorem reactToNotice_gives (notice : Notice) :
    (reactToNotice side notice).serve? = none ∧ (reactToNotice side notice).notify? = none ∧
      (reactToNotice side notice).reply? = none := by
  cases notice with
  | hello version =>
    cases side with
    | client => exact ⟨rfl, rfl, rfl⟩
    | server =>
      simp only [reactToNotice]
      split <;> exact ⟨rfl, rfl, rfl⟩
  | violation code details => exact ⟨rfl, rfl, rfl⟩
  | close => exact ⟨rfl, rfl, rfl⟩

theorem reactToMessage_gives :
    (reactToMessage stack f s).1.serve? =
      (if f.kind = .request then (f.delivery? stack s).map (f.conversation, ·) else none) ∧
    (reactToMessage stack f s).1.notify? =
      (if f.kind = .request then none else f.delivery? stack s) ∧
    (reactToMessage stack f s).1.reply? = none := by
  unfold reactToMessage Frame.delivery?
  cases frameBaggage f with
  | error e => simp [malformed, Reaction.serve?, Reaction.notify?, Reaction.reply?]
  | ok b =>
    cases frameHeading f with
    | error e => simp [malformed, Reaction.serve?, Reaction.notify?, Reaction.reply?]
    | ok h =>
      simp only
      cases (inspect stack f.kind b s).verdict <;> by_cases hk : f.kind = .request <;>
        simp [hk, Reaction.serve?, Reaction.notify?, Reaction.reply?]

theorem reactToAnswer_gives (hk : f.kind.isAnswer = true) :
    (reactToAnswer stack f s).1.serve? = none ∧ (reactToAnswer stack f s).1.notify? = none ∧
      (reactToAnswer stack f s).1.reply? = Frame.reply? stack (f, s) := by
  unfold reactToAnswer Frame.reply?
  rw [if_pos hk]
  cases frameBaggage f with
  | error e => exact ⟨rfl, rfl, rfl⟩
  | ok b =>
    cases frameResult f with
    | error e => exact ⟨rfl, rfl, rfl⟩
    | ok result => exact ⟨rfl, rfl, rfl⟩

/-- What a reaction gives away is what the frame does. -/
theorem react_gives :
    (react side stack f s).1.serve? = Frame.request? stack (f, s) ∧
    (react side stack f s).1.notify? = Frame.event? stack (f, s) ∧
    (react side stack f s).1.reply? = Frame.reply? stack (f, s) := by
  have hmessage := reactToMessage_gives stack f s
  have hanswer := reactToAnswer_gives stack f s
  unfold react Frame.request? Frame.event?
  cases hk : f.kind with
  | control =>
    have hreply : Frame.reply? stack (f, s) = none := by
      rw [Frame.reply?, hk]
      rfl
    rw [hreply]
    cases frameNotice f with
    | ok notice => exact reactToNotice_gives side notice
    | error e => exact ⟨rfl, rfl, rfl⟩
  | request =>
    rw [hk] at hmessage
    have hreply : Frame.reply? stack (f, s) = none := by
      rw [Frame.reply?, hk]
      rfl
    rw [hreply]
    exact hmessage
  | event =>
    rw [hk] at hmessage
    have hreply : Frame.reply? stack (f, s) = none := by
      rw [Frame.reply?, hk]
      rfl
    rw [hreply]
    exact hmessage
  | response => exact hanswer (by rw [hk]; rfl)
  | error => exact hanswer (by rw [hk]; rfl)

end Gifts

end Rpc
