import Rpc.Connection.Incoming
import Rpc.Connection.Outgoing
import Rpc.Proofs.Frame.ReadBack

/-! # Frames that are built and frames that are taken in

What the frame of a message says is what it was built from, and what a frame asks for is read off
its kind and its contents. The layers decide only whether a message passes.
-/
namespace Rpc

open Message

namespace Frame

def asked? (f : Frame) : Option UInt64 := if f.kind = .request then some f.conversation else none

def answered? (f : Frame) : Option UInt64 := if f.kind.isAnswer then some f.conversation else none

/-- Whether the contents of the frame of a request decode. -/
def isLegible (f : Frame) : Bool := (frameBaggage f).isOk && (frameHeading f).isOk

end Frame

def Reaction.opened? : Reaction → Option UInt64
  | .serve n _ | .turnDown n _ => some n
  | _ => none

variable {σ : Type} {stack : Option (Stack σ)} {n : UInt64} {s : σ}

theorem messageFrame_ok {k : Kind} {b : Baggage} {method : Option String} {payload : Bytes}
    {f : Frame} (h : (messageFrame stack n k b method payload s).1 = .ok f) :
    ∃ baggage heading, (packBaggage stack k b s).1 = .ok baggage ∧
      packHeading method = .ok heading ∧ f = .message n k baggage heading payload := by
  unfold messageFrame at h
  simp only at h
  split at h
  · cases h
  · cases h
  · rename_i baggage heading hb hh
    cases h
    exact ⟨baggage, heading, hb, hh, rfl⟩

theorem packBaggage_error {k : Kind} {b : Baggage} {cause : CallError}
    (h : (packBaggage stack k b s).1 = .error cause) (code : UInt32) (text : String) :
    cause ≠ .service code text := by
  cases stack with
  | none =>
    simp only [packBaggage] at h
    cases hempty : b.isEmpty with
    | true =>
      simp only [hempty, if_true] at h
      cases h
    | false =>
      simp only [hempty, Bool.false_eq_true, if_false] at h
      cases hbytes : b.toBytes <;> rw [hbytes] at h <;> cases h
      exact CallError.noConfusion
  | some stack =>
    simp only [packBaggage] at h
    cases hv : (stack.send k b s).verdict with
    | error r =>
      rw [hv] at h
      cases h
      exact CallError.noConfusion
    | ok _ =>
      simp only [hv] at h
      cases hbytes : (stack.send k b s).baggage.toBytes <;> rw [hbytes] at h <;> cases h
      exact CallError.noConfusion

theorem packHeading_error {method : Option String} {cause : CallError}
    (h : packHeading method = .error cause) (code : UInt32) (text : String) :
    cause ≠ .service code text := by
  cases method with
  | none => cases h
  | some m =>
    simp only [packHeading] at h
    cases hbytes : (Heading.mk m).toBytes <;> rw [hbytes] at h <;> cases h
    exact CallError.noConfusion

/-- A message that cannot be built is not an answer of the peer. -/
theorem messageFrame_error {k : Kind} {b : Baggage} {method : Option String} {payload : Bytes}
    {cause : CallError} (h : (messageFrame stack n k b method payload s).1 = .error cause)
    (code : UInt32) (text : String) : cause ≠ .service code text := by
  simp only [messageFrame] at h
  cases hb : (packBaggage stack k b s).1 with
  | error e =>
    rw [hb] at h
    cases h
    exact packBaggage_error hb code text
  | ok baggage =>
    rw [hb] at h
    cases hh : packHeading method with
    | error e =>
      rw [hh] at h
      cases h
      exact packHeading_error hh code text
    | ok heading =>
      rw [hh] at h
      cases h

theorem answerFrame_ok {result : Except Fault Bytes} {f : Frame}
    (h : (answerFrame stack n result s).1 = .ok f) :
    (∃ baggage payload, result = .ok payload ∧ f = .message n .response baggage none payload) ∨
      ∃ baggage fault code, result = .error fault ∧ fault.toBytes = .ok code ∧
        f = .message n .error baggage none code := by
  cases result with
  | ok payload =>
    obtain ⟨baggage, heading, -, hh, rfl⟩ := messageFrame_ok h
    cases hh
    exact Or.inl ⟨baggage, payload, rfl, rfl⟩
  | error fault =>
    simp only [answerFrame] at h
    split at h
    · rename_i code hcode
      obtain ⟨baggage, heading, -, hh, rfl⟩ := messageFrame_ok h
      cases hh
      exact Or.inr ⟨baggage, fault, code, rfl, hcode, rfl⟩
    · cases h

theorem finalAnswer_some {result : Except Fault Bytes} {f : Frame}
    (h : (finalAnswer stack n result s).1 = some f) :
    ∃ k baggage payload, (k = .response ∨ k = .error) ∧
      f = .message n k baggage none payload := by
  simp only [finalAnswer] at h
  split at h
  · rename_i g hg
    cases h
    rcases answerFrame_ok hg with ⟨baggage, payload, -, hf⟩ | ⟨baggage, fault, code, -, -, hf⟩
    · exact ⟨.response, baggage, payload, Or.inl rfl, hf⟩
    · exact ⟨.error, baggage, code, Or.inr rfl, hf⟩
  · split at h
    · cases h
      exact ⟨.error, none, _, Or.inr rfl, rfl⟩
    · cases h

theorem finalAnswer_isAnswer {result : Except Fault Bytes} {f : Frame}
    (h : (finalAnswer stack n result s).1 = some f) :
    f.kind.isAnswer = true ∧ f.conversation = n := by
  obtain ⟨k, baggage, payload, hk, rfl⟩ := finalAnswer_some h
  rcases hk with rfl | rfl <;> exact ⟨rfl, rfl⟩

theorem finalAnswer_asked? {result : Except Fault Bytes} {f : Frame}
    (h : (finalAnswer stack n result s).1 = some f) : f.asked? = none := by
  obtain ⟨k, baggage, payload, hk, rfl⟩ := finalAnswer_some h
  rcases hk with rfl | rfl <;> rfl

/-- The parts of an answer always fit its kind. -/
theorem finalAnswer_wellFormed {result : Except Fault Bytes} {f : Frame}
    (h : (finalAnswer stack n result s).1 = some f) : f.WellFormed := by
  obtain ⟨k, baggage, payload, hk, rfl⟩ := finalAnswer_some h
  rcases hk with rfl | rfl <;> cases baggage <;>
    simp [Frame.WellFormed, Frame.roles, Frame.message, Frame.layouts]

theorem noticeFrame_ok {notice : Notice} {f : Frame} (h : noticeFrame notice = .ok f) :
    ∃ code, notice.toBytes = .ok code ∧ f = .control code := by
  unfold noticeFrame at h
  split at h
  · rename_i code hcode
    cases h
    exact ⟨code, hcode, rfl⟩
  · cases h

/-- Only the frames of calls are requests and events. -/
theorem callFrame_kind {k : Kind} {b : Baggage} {method : Option String} {payload : Bytes}
    {f : Frame} (h : (messageFrame stack n k b method payload s).1 = .ok f) :
    f.kind = k ∧ f.conversation = n := by
  obtain ⟨baggage, heading, -, -, rfl⟩ := messageFrame_ok h
  exact ⟨rfl, rfl⟩

section Reactions

variable {side : Side} {f : Frame}

theorem reactToMessage_cases (stack : Option (Stack σ)) (f : Frame) (s : σ) :
    (∃ e, (reactToMessage stack f s).1 = malformed e ∧
      (frameBaggage f = .error e ∨ frameHeading f = .error e)) ∨
    ∃ b h, frameBaggage f = .ok b ∧ frameHeading f = .ok h ∧
      (reactToMessage stack f s).1 = match (inspect stack f.kind b s).verdict with
        | .ok () =>
          if f.kind = .request then .serve f.conversation ⟨h.method, framePayload f, b⟩
          else .notify ⟨h.method, framePayload f, b⟩
        | .error r => if f.kind = .request then .turnDown f.conversation r.fault else .readOn := by
  unfold reactToMessage
  cases hb : frameBaggage f with
  | error e => exact Or.inl ⟨e, rfl, Or.inl rfl⟩
  | ok b =>
    cases hh : frameHeading f with
    | error e => exact Or.inl ⟨e, rfl, Or.inr rfl⟩
    | ok h => exact Or.inr ⟨b, h, rfl, rfl, rfl⟩

theorem reactToAnswer_cases (stack : Option (Stack σ)) (f : Frame) (s : σ) :
    (∃ e, (reactToAnswer stack f s).1 = malformed e ∧
      (frameBaggage f = .error e ∨ frameResult f = .error e)) ∨
    ∃ b result, frameBaggage f = .ok b ∧ frameResult f = .ok result ∧
      (reactToAnswer stack f s).1 = .complete f.conversation
        (match (inspect stack f.kind b s).verdict, result with
          | .error r, _ => .error r.callError
          | .ok (), .ok payload => .ok payload
          | .ok (), .error fault => .error (serviceError fault)) := by
  unfold reactToAnswer
  cases hb : frameBaggage f with
  | error e => exact Or.inl ⟨e, rfl, Or.inl rfl⟩
  | ok b =>
    cases hr : frameResult f with
    | error e => exact Or.inl ⟨e, rfl, Or.inr rfl⟩
    | ok result => exact Or.inr ⟨b, result, rfl, rfl, rfl⟩

theorem react_cases (side : Side) (stack : Option (Stack σ)) (f : Frame) (s : σ) :
    (f.kind = .control ∧ (react side stack f s).1 = match frameNotice f with
      | .ok notice => reactToNotice side notice
      | .error e => malformed e) ∨
    ((f.kind = .request ∨ f.kind = .event) ∧
      (react side stack f s).1 = (reactToMessage stack f s).1) ∨
    (f.kind.isAnswer = true ∧ (react side stack f s).1 = (reactToAnswer stack f s).1) := by
  unfold react
  cases hk : f.kind with
  | control => exact Or.inl ⟨rfl, rfl⟩
  | request => exact Or.inr (Or.inl ⟨Or.inl rfl, rfl⟩)
  | event => exact Or.inr (Or.inl ⟨Or.inr rfl, rfl⟩)
  | response => exact Or.inr (Or.inr ⟨rfl, rfl⟩)
  | error => exact Or.inr (Or.inr ⟨rfl, rfl⟩)

theorem reactToNotice_opened? (side : Side) (notice : Notice) :
    (reactToNotice side notice).opened? = none := by
  cases notice with
  | hello version =>
    cases side with
    | client => rfl
    | server =>
      simp only [reactToNotice]
      split <;> rfl
  | violation code details => rfl
  | close => rfl

/-- A reaction opens the conversation of a request that decodes, and no other. -/
theorem react_opened? (side : Side) (stack : Option (Stack σ)) (f : Frame) (s : σ) :
    (react side stack f s).1.opened? = if f.isLegible then f.asked? else none := by
  have hmessage : (reactToMessage stack f s).1.opened? =
      if f.isLegible then f.asked? else none := by
    rcases reactToMessage_cases stack f s with ⟨e, hr, he⟩ | ⟨b, h, hb, hh, hr⟩
    · have hl : f.isLegible = false := by
        rcases he with he | he <;> simp [Frame.isLegible, he, Except.isOk, Except.toBool]
      rw [hr, hl]
      rfl
    · have hl : f.isLegible = true := by
        simp [Frame.isLegible, hb, hh, Except.isOk, Except.toBool]
      rw [hr, hl, if_pos rfl, Frame.asked?]
      by_cases hk : f.kind = .request
      · simp only [if_pos hk]
        cases (inspect stack f.kind b s).verdict <;> rfl
      · simp only [if_neg hk]
        cases (inspect stack f.kind b s).verdict <;> rfl
  have hother : f.kind ≠ .request → (if f.isLegible then f.asked? else none) = none := by
    intro hk
    rw [Frame.asked?, if_neg hk, ite_self]
  rcases react_cases side stack f s with ⟨hk, hr⟩ | ⟨-, hr⟩ | ⟨hk, hr⟩
  · rw [hother (by simp [hk]), hr]
    cases frameNotice f with
    | ok notice => exact reactToNotice_opened? side notice
    | error e => rfl
  · rw [hr]
    exact hmessage
  · have hne : f.kind ≠ .request := by
      intro h
      rw [h] at hk
      cases hk
    rw [hother hne, hr]
    rcases reactToAnswer_cases stack f s with ⟨e, hr, -⟩ | ⟨b, result, -, -, hr⟩ <;> rw [hr] <;> rfl

/-- What is handed to a handler is what the frame of a request says. -/
theorem react_serve {stack : Option (Stack σ)} {s : σ} {n : UInt64} {d : Delivery}
    (h : (react side stack f s).1 = .serve n d) : f.kind = .request ∧ n = f.conversation ∧
      frameHeading f = .ok ⟨d.method⟩ ∧ d.payload = framePayload f ∧
      frameBaggage f = .ok d.baggage := by
  rcases react_cases side stack f s with ⟨-, hr⟩ | ⟨-, hr⟩ | ⟨-, hr⟩
  · rw [h] at hr
    cases hn : frameNotice f with
    | ok notice =>
      rw [hn] at hr
      have hopened := congrArg Reaction.opened? hr
      rw [reactToNotice_opened?] at hopened
      cases hopened
    | error e =>
      rw [hn] at hr
      cases hr
  · rw [h] at hr
    rcases reactToMessage_cases stack f s with ⟨e, hm, -⟩ | ⟨b, heading, hb, hh, hm⟩
    · rw [hm] at hr
      cases hr
    · rw [hm] at hr
      split at hr
      · split at hr
        · rename_i hk
          cases hr
          exact ⟨hk, rfl, hh, rfl, hb⟩
        · cases hr
      · split at hr <;> cases hr
  · rw [h] at hr
    rcases reactToAnswer_cases stack f s with ⟨e, hm, -⟩ | ⟨b, result, -, -, hm⟩
    · rw [hm] at hr
      cases hr
    · rw [hm] at hr
      cases hr

/-- What is handed to a caller is what the frame of an answer says, or what the layers say. -/
theorem react_complete {stack : Option (Stack σ)} {s : σ} {n : UInt64} {reply : Reply}
    (h : (react side stack f s).1 = .complete n reply) : f.kind.isAnswer = true ∧
      n = f.conversation ∧ ∃ b result, frameBaggage f = .ok b ∧ frameResult f = .ok result ∧
      reply = match (inspect stack f.kind b s).verdict, result with
        | .error r, _ => .error r.callError
        | .ok (), .ok payload => .ok payload
        | .ok (), .error fault => .error (serviceError fault) := by
  rcases react_cases side stack f s with ⟨-, hr⟩ | ⟨-, hr⟩ | ⟨hk, hr⟩
  · rw [h] at hr
    cases hn : frameNotice f with
    | ok notice =>
      rw [hn] at hr
      cases notice with
      | hello version =>
        cases side with
        | client => cases hr
        | server =>
          simp only [reactToNotice] at hr
          split at hr <;> cases hr
      | violation code details => cases hr
      | close => cases hr
    | error e =>
      rw [hn] at hr
      cases hr
  · rw [h] at hr
    rcases reactToMessage_cases stack f s with ⟨e, hm, -⟩ | ⟨b, heading, hb, hh, hm⟩
    · rw [hm] at hr
      cases hr
    · rw [hm] at hr
      split at hr
      · split at hr <;> cases hr
      · split at hr <;> cases hr
  · rw [h] at hr
    rcases reactToAnswer_cases stack f s with ⟨e, hm, -⟩ | ⟨b, result, hb, hresult, hm⟩
    · rw [hm] at hr
      cases hr
    · rw [hm] at hr
      cases hr
      exact ⟨hk, rfl, b, result, hb, hresult, rfl⟩

theorem react_ne_turnDown {s : σ} {n : UInt64} {fault : Fault} :
    (react side (none : Option (Stack σ)) f s).1 ≠ .turnDown n fault := by
  intro h
  rcases react_cases side none f s with ⟨-, hr⟩ | ⟨-, hr⟩ | ⟨-, hr⟩
  · rw [h] at hr
    cases hn : frameNotice f with
    | ok notice =>
      rw [hn] at hr
      have hopened := congrArg Reaction.opened? hr
      rw [reactToNotice_opened?] at hopened
      cases hopened
    | error e =>
      rw [hn] at hr
      cases hr
  · rw [h] at hr
    rcases reactToMessage_cases none f s with ⟨e, hm, -⟩ | ⟨b, heading, hb, hh, hm⟩
    · rw [hm] at hr
      cases hr
    · rw [hm] at hr
      simp only [inspect] at hr
      split at hr <;> cases hr
  · rw [h] at hr
    rcases reactToAnswer_cases none f s with ⟨e, hm, -⟩ | ⟨b, result, -, -, hm⟩
    · rw [hm] at hr
      cases hr
    · rw [hm] at hr
      cases hr

end Reactions

end Rpc
