import Rpc.Proofs.Archive.Contents
import Rpc.Proofs.Connection.Correlation
import Rpc.Proofs.Connection.Refusals
import Rpc.Proofs.Connection.Story

/-! # Nothing goes around the layers

What reaches the application or a waiting caller came with a frame that all layers let in. Each
frame of a message carries the baggage that a complete walk out left, except the error that stands
in for an answer which a layer refused: it tells what that layer said. A refusal concerns the one
message only: the connection stays as it is, and so do all other calls.
-/
namespace Rpc

open Message

variable {σ : Type} {stack : Stack σ} {n : UInt64} {s : σ}

/-- A frame carries the baggage that a complete walk out left. -/
def Frame.Carries (stack : Stack σ) (f : Frame) (b : Baggage) (s : σ) : Prop :=
  ∃ b' s' content, Layer.Passes f.kind stack.layers b s b' s' ∧
    f.content? .baggage = some content ∧ Baggage.ofBytes content = .ok b'

/-- An error tells why a layer refused the answer in whose place it stands. -/
def Frame.Excuses (stack : Stack σ) (f : Frame) (k : Kind) (s : σ) : Prop :=
  f.kind = .error ∧ k.isAnswer = true ∧ ∃ r, Layer.Refuses k stack.layers .empty s r ∧
    frameResult f = .ok (.error (.ofText r.code r.message))

/-! ## Building -/

theorem carries_of_messageFrame {k : Kind} {b : Baggage} {method : Option String} {payload : Bytes}
    {f : Frame} (h : (messageFrame (some stack) n k b method payload s).1 = .ok f) :
    f.kind = k ∧ f.Carries stack b s := by
  obtain ⟨baggage, heading, hb, -, rfl⟩ := messageFrame_ok h
  simp only [packBaggage] at hb
  split at hb
  · cases hb
  · rename_i hv
    split at hb
    · rename_i content hcontent
      cases hb
      exact ⟨rfl, _, _, content, Stack.passes_of_verdict hv, rfl,
        Baggage.ofBytes_toBytes hcontent⟩
    · cases hb

inductive Archived
  | fault (f : Fault)
  | baggage (b : Baggage)

def Archived.IsBounded : Archived → Prop
  | fault f => ∃ code, f.toBytes = .ok code
  | baggage b => ∃ code, b.toBytes = .ok code

/-- What is archived for an answer before it becomes a frame: its fault, and the baggage that the
layers left. -/
def answerArchives (stack : Option (Stack σ)) (result : Except Fault Bytes) (s : σ) :
    List Archived :=
  (match result with
    | .error f => [.fault f]
    | .ok _ => []) ++
  match stack with
    | some stack =>
      let d := stack.send (answerKind result) .empty s
      match d.verdict with
      | .ok () => [.baggage d.baggage]
      | .error _ => []
    | none => []

/-- An answer whose values can be archived becomes a frame, unless a layer refuses it. -/
theorem answerFrame_bounded {result : Except Fault Bytes}
    (hbounded : ∀ v ∈ answerArchives (some stack) result s, v.IsBounded) :
    (∃ f, (answerFrame (some stack) n result s).1 = .ok f ∧ f.kind = answerKind result ∧
        f.Carries stack .empty s) ∨
      ∃ r, Layer.Refuses (answerKind result) stack.layers .empty s r ∧
        (answerFrame (some stack) n result s).1 = .error r.callError := by
  have hmessage : ∀ k payload, k = answerKind result →
      (∃ f, (messageFrame (some stack) n k .empty none payload s).1 = .ok f ∧
        f.kind = answerKind result ∧ f.Carries stack .empty s) ∨
      ∃ r, Layer.Refuses (answerKind result) stack.layers .empty s r ∧
        (messageFrame (some stack) n k .empty none payload s).1 = .error r.callError := by
    rintro k payload rfl
    cases hv : (stack.send (answerKind result) .empty s).verdict with
    | error r =>
      have hrefuses := Layer.refuses_iff.mpr hv
      exact Or.inr ⟨r, hrefuses, messageFrame_of_refuses hrefuses⟩
    | ok u =>
      have hleft : Archived.baggage (stack.send (answerKind result) .empty s).baggage ∈
          answerArchives (some stack) result s := by
        simp [answerArchives, hv]
      obtain ⟨code, hcode⟩ := hbounded _ hleft
      have hframe : (messageFrame (some stack) n (answerKind result) .empty none payload s).1 =
          .ok (.message n (answerKind result) (some code) none payload) := by
        simp only [messageFrame, packBaggage, packHeading, hv, hcode]
      exact Or.inl ⟨_, hframe, carries_of_messageFrame hframe⟩
  cases result with
  | ok payload => exact hmessage .response payload rfl
  | error fault =>
    obtain ⟨code, hcode⟩ := hbounded (.fault fault) (by simp [answerArchives])
    simp only [answerFrame, hcode]
    exact hmessage .error code rfl

/-- The frame that answers a request went through the layers, or excuses the one that did not. -/
theorem finalAnswer_mediated {result : Except Fault Bytes} {f : Frame}
    (hbounded : ∀ v ∈ answerArchives (some stack) result s, v.IsBounded)
    (h : (finalAnswer (some stack) n result s).1 = some f) :
    f.kind = answerKind result ∧ f.Carries stack .empty s ∨
      f.Excuses stack (answerKind result) s := by
  simp only [finalAnswer] at h
  rcases answerFrame_bounded (n := n) hbounded with ⟨g, hg, hcarries⟩ | ⟨r, hrefuses, hr⟩
  · rw [hg] at h
    cases h
    exact Or.inl hcarries
  · rw [hr] at h
    dsimp only at h
    split at h
    · rename_i payload hpayload
      cases h
      refine Or.inr ⟨rfl, answerKind_isAnswer result, r, hrefuses, ?_⟩
      have hread : Fault.ofBytes payload = .ok (.ofText r.code r.message) :=
        Fault.ofBytes_toBytes hpayload
      have hcontent : framePayload (.message n .error none none payload) = payload := rfl
      simp only [frameResult, Frame.message, reduceCtorEq, if_false]
      simp only [Frame.message] at hcontent
      rw [hcontent, hread]
    · cases h

/-! ## Reacting -/

structure Frame.IsLetIn (stack : Stack σ) (f : Frame) (b : Baggage) (s : σ) : Prop where
  baggage : frameBaggage f = .ok b
  admits : ∃ s', Layer.Admits f.kind b stack.layers.reverse s s'

/-- What is handed to the application is what a frame says that all layers let in. -/
structure Frame.Brings (stack : Stack σ) (f : Frame) (d : Delivery) (s : σ) : Prop where
  letIn : f.IsLetIn stack d.baggage s
  heading : frameHeading f = .ok ⟨d.method⟩
  payload : framePayload f = d.payload

structure Frame.Answers (stack : Stack σ) (f : Frame) (result : Except Fault Bytes) (s : σ) :
    Prop where
  kind : f.kind.isAnswer = true
  letIn : ∃ b, f.IsLetIn stack b s
  result : frameResult f = .ok result

section Reactions

variable {side : Side} {f : Frame}

theorem Frame.brings_of_delivery {d : Delivery} (h : f.delivery? (some stack) s = some d) :
    f.Brings stack d s := by
  unfold Frame.delivery? at h
  split at h
  · rename_i b heading hb hh
    split at h
    · rename_i u hv
      cases h
      exact ⟨⟨hb, _, Stack.admits_of_verdict hv⟩, hh, rfl⟩
    · cases h
  · cases h

/-- A reply of the peer, and no failure of this end, was let in. -/
theorem answers_of_complete {reply : Reply}
    (h : (react side (some stack) f s).1 = .complete n reply)
    (ha : (Ending.ofReply reply).isAnswer) :
    n = f.conversation ∧ ∃ result, f.Answers stack result s ∧
      Ending.ofReply reply = .ofResult result := by
  obtain ⟨hk, hn, b, result, hb, hresult, rfl⟩ := react_complete h
  cases hv : (inspect (some stack) f.kind b s).verdict with
  | error r =>
    rw [hv] at ha
    cases ha
  | ok u =>
    refine ⟨hn, result, ⟨hk, ⟨b, hb, _, Stack.admits_of_verdict hv⟩, hresult⟩, ?_⟩
    cases result <;> rfl

end Reactions

namespace Connection

variable {p : Profile σ} {c : Connection σ} {es : List Event} {e : Event}

/-! ## What comes in -/

/-- A request is handed to a handler when its frame is taken in, and no later. -/
theorem brings_of_serve (hstack : p.stack = some stack) {handler : Nat} {d : Delivery}
    (h : .serve handler n d ∈ (c.step p e).2) :
    ∃ f, e = .arrive (.frame f) ∧ f.kind = .request ∧ f.conversation = n ∧
      f.Brings stack d c.surroundings := by
  have hserve : (handler, n, d) ∈ c.serves p e := by
    rw [serves, ← (step_outputs e).2.1]
    exact List.mem_filterMap.mpr ⟨_, h, rfl⟩
  obtain ⟨⟨f, r⟩, htakes, hr⟩ := List.mem_filterMap.mp hserve
  obtain ⟨rfl, rfl⟩ := of_mem_takes htakes
  rw [(react_gives p.side p.stack f c.surroundings).1, hstack, Frame.request?] at hr
  dsimp only at hr
  split at hr
  · rename_i hk
    obtain ⟨⟨m, d'⟩, hgiven, hsame⟩ := Option.map_eq_some_iff.mp hr
    obtain ⟨d'', hd, hpair⟩ := Option.map_eq_some_iff.mp hgiven
    cases hpair
    cases hsame
    exact ⟨f, rfl, hk, rfl, Frame.brings_of_delivery hd⟩
  · cases hr

theorem brings_of_notify (hstack : p.stack = some stack) {d : Delivery}
    (h : .notify d ∈ (c.step p e).2) :
    ∃ f, e = .arrive (.frame f) ∧ f.kind = .event ∧ f.Brings stack d c.surroundings := by
  have hnotify : d ∈ (c.takes p e).filterMap (·.2.notify?) := by
    rw [← (step_outputs e).2.2]
    exact List.mem_filterMap.mpr ⟨_, h, rfl⟩
  obtain ⟨⟨f, r⟩, htakes, hr⟩ := List.mem_filterMap.mp hnotify
  obtain ⟨rfl, rfl⟩ := of_mem_takes htakes
  rw [(react_gives p.side p.stack f c.surroundings).2.1, hstack, Frame.event?] at hr
  dsimp only at hr
  split at hr
  · rename_i hk
    exact ⟨f, rfl, hk, Frame.brings_of_delivery hr⟩
  · cases hr

/-- A call that ends with an answer of the peer got it from a frame under its number that all layers
let in. -/
theorem answers_of_ended (hstack : p.stack = some stack) {caller : Nat} {ending : Ending}
    (h : .ended caller ending ∈ ((run p (.new p s) es).1.step p e).2) (ha : ending.isAnswer) :
    ∃ k f result front back, (run p (.new p s) es).1.call? caller = some k ∧
      k.stage = .awaiting f.conversation ∧ es = front ++ .arrive (.frame f) :: back ∧
      f.Answers stack result (run p (.new p s) front).1.surroundings ∧
      ending = .ofResult result := by
  have hended : (caller, ending) ∈ ended p (run p (.new p s) es).1 e :=
    List.mem_filterMap.mpr ⟨_, h, rfl⟩
  obtain ⟨k, n, reply, hk, hs, hi, rfl⟩ := inbox_of_ended hended ha
  have howns := owns_run (p := p) s es _ (mem_of_lookup hk)
  rcases howns.inbox n reply (by rw [hs]; rfl) hi with rfl | ⟨f, hf⟩
  · cases ha
  · obtain ⟨front, e', back, rfl, hmem⟩ := mem_trail_iff.mp hf
    obtain ⟨rfl, hr⟩ := of_mem_takes hmem
    rw [hstack] at hr
    obtain ⟨rfl, result, hanswers, hending⟩ := answers_of_complete hr.symm ha
    exact ⟨k, f, result, front, back, hk, hs, rfl, hanswers, hending⟩

/-! ## What goes out -/

variable (p c) in
/-- A message of some kind sets out in a step, with its baggage, before layers in some state. -/
inductive SetsOut : Event → Kind → Baggage → σ → Prop
  | call {caller : Nat} {k : Call} {n : UInt64} (hk : c.call? caller = some k)
      (hn : k.stage = .numbered n) :
      SetsOut (.advance caller) k.kind k.context.baggage c.surroundings
  | answer {handler : Nat} {n : UInt64} (hn : c.serving.lookup handler = some n)
      (result : Except Fault Bytes) :
      SetsOut (.answer handler result) (answerKind result) .empty c.surroundings
  | turnDown {g : Frame} {n : UInt64} {fault : Fault} {s : σ} (hl : c.loop = .reading)
      (hr : react p.side p.stack g c.surroundings = (.turnDown n fault, s)) :
      SetsOut (.arrive (.frame g)) .error .empty s

variable (p c) in
def archives : Event → List Archived
  | .answer handler result =>
    match c.serving.lookup handler with
    | some _ => answerArchives p.stack result c.surroundings
    | none => []
  | .arrive (.frame f) =>
    if c.loop = .reading then
      match react p.side p.stack f c.surroundings with
      | (.turnDown _ fault, s) => answerArchives p.stack (.error fault) s
      | _ => []
    else []
  | _ => []

/-- A frame went through the layers as the message that set out, or it excuses that message. -/
def Mediates (stack : Stack σ) (f : Frame) (k : Kind) (b : Baggage) (s : σ) : Prop :=
  f.kind = k ∧ f.Carries stack b s ∨ f.Excuses stack k s

theorem Enlists.mediates {e : Event} {purpose : Purpose} {f : Frame} (h : Enlists p c e purpose f)
    (hstack : p.stack = some stack) (hbounded : ∀ v ∈ c.archives p e, v.IsBounded)
    (hkind : f.kind ≠ .control) :
    ∃ k b s', SetsOut p c e k b s' ∧ Mediates stack f k b s' := by
  cases h with
  | call hk hn hf =>
    rw [hstack] at hf
    exact ⟨_, _, _, .call hk hn, Or.inl (carries_of_messageFrame hf)⟩
  | answer hn hf =>
    rename_i handler result n
    simp only [archives, hn, hstack] at hbounded
    rw [hstack] at hf
    exact ⟨_, _, _, .answer hn result, finalAnswer_mediated hbounded hf⟩
  | turnDown hl hr hf =>
    have hout := SetsOut.turnDown hl hr
    simp only [archives, if_pos hl, hr] at hbounded
    rw [hstack] at hf hbounded
    exact ⟨_, _, _, hout, finalAnswer_mediated hbounded hf⟩
  | notice he hf hp =>
    obtain ⟨code, -, rfl⟩ := noticeFrame_ok hf
    exact absurd rfl hkind

theorem mediates_run (hstack : p.stack = some stack)
    (hbounded : ∀ v ∈ trail p (archives p) (.new p s) es, v.IsBounded) {f : Frame}
    (hf : .sent f ∈ ((run p (.new p s) es).1.step p e).2) (hkind : f.kind ≠ .control) :
    ∃ front e' back k b s', es = front ++ e' :: back ∧
      SetsOut p (run p (.new p s) front).1 e' k b s' ∧ Mediates stack f k b s' := by
  let Q : List Event → Frame → Prop := fun es f =>
    (∀ v ∈ trail p (archives p) (.new p s) es, v.IsBounded) → f.kind ≠ .control →
      ∃ front e' back k b s', es = front ++ e' :: back ∧
        SetsOut p (run p (.new p s) front).1 e' k b s' ∧ Mediates stack f k b s'
  have hqueued : ∀ x ∈ (run p (.new p s) es).1.writers, Q es x.2.frame :=
    (frames_run es s ?_ ?_).1
  · have hwritten : f ∈ (run p (.new p s) es).1.writes e := by
      rw [← (step_outputs (p := p) e).1]
      exact List.mem_filterMap.mpr ⟨_, hf, rfl⟩
    have hmem := (writers_perm (writersBelow_run (p := p) s es) e).mem_iff.mpr
      (List.mem_append_right _ (List.mem_append_left _ hwritten))
    obtain ⟨x, hx, rfl⟩ := List.mem_map.mp hmem
    exact hqueued x hx hbounded hkind
  · intro front e f hfront hbounded hkind
    rw [trail_concat] at hbounded
    obtain ⟨front', e', back, k, b, s', rfl, hout, hmediates⟩ :=
      hfront (fun v hv => hbounded v (List.mem_append_left _ hv)) hkind
    refine ⟨front', e', back ++ [e], k, b, s', ?_, hout, hmediates⟩
    rw [List.append_assoc, List.cons_append]
  · intro front e purpose f hf hbounded hkind
    rw [trail_concat] at hbounded
    obtain ⟨k, b, s', hout, hmediates⟩ :=
      hf.mediates hstack (fun v hv => hbounded v (List.mem_append_right _ hv)) hkind
    exact ⟨front, e, [], k, b, s', rfl, hout, hmediates⟩

/-! ## Mediation -/

/-- What the layers see to in an event that comes after others. -/
structure Mediated (p : Profile σ) (stack : Stack σ) (s : σ) (es : List Event) (e : Event) :
    Prop where
  served : ∀ handler n d, .serve handler n d ∈ ((run p (.new p s) es).1.step p e).2 →
    ∃ f, e = .arrive (.frame f) ∧ f.kind = .request ∧ f.conversation = n ∧
      f.Brings stack d (run p (.new p s) es).1.surroundings
  notified : ∀ d, .notify d ∈ ((run p (.new p s) es).1.step p e).2 →
    ∃ f, e = .arrive (.frame f) ∧ f.kind = .event ∧
      f.Brings stack d (run p (.new p s) es).1.surroundings
  answered : ∀ caller ending, .ended caller ending ∈ ((run p (.new p s) es).1.step p e).2 →
    ending.isAnswer → ∃ k f result front back, (run p (.new p s) es).1.call? caller = some k ∧
      k.stage = .awaiting f.conversation ∧ es = front ++ .arrive (.frame f) :: back ∧
      f.Answers stack result (run p (.new p s) front).1.surroundings ∧ ending = .ofResult result
  written : ∀ f, .sent f ∈ ((run p (.new p s) es).1.step p e).2 → f.kind ≠ .control →
    ∃ front e' back k b s', es = front ++ e' :: back ∧
      SetsOut p (run p (.new p s) front).1 e' k b s' ∧ Mediates stack f k b s'
  spared : ∀ own, Rebuffs (run p (.new p s) es).1 stack e own →
    Spares (run p (.new p s) es).1 ((run p (.new p s) es).1.step p e).1 own
      fun n => 1 < (drawn p s es).count n

/-- Whatever comes in or goes out has been through all layers, and a refusal is about one message.
Two calls have one number only if the counter has come round, after `2 ^ 63 - 1` numbers; then the
one that is refused takes the number of the other off the table. -/
theorem mediated_of_bounded (hstack : p.stack = some stack)
    (hbounded : ∀ v ∈ trail p (archives p) (.new p s) es, v.IsBounded) (e : Event) :
    Mediated p stack s es e where
  served _ _ _ h := brings_of_serve hstack h
  notified _ h := brings_of_notify hstack h
  answered _ _ h ha := answers_of_ended hstack h ha
  written _ h hkind := mediates_run hstack hbounded h hkind
  spared own h := by
    refine h.spares hstack fun caller k other k' n hk hn hk' hn' honce => ?_
    exact caller_unique (p := p) (s := s) (Nat.not_lt.mp honce) hk (Call.number?_of_stage hn) hk'
      (Call.number?_of_stage hn')

/-- Lets no answer out but errors, and stamps those. -/
def stampedErrors : Layer Unit where
  send k b s :=
    if k = .response then ⟨.error (.rejected "no answers"), b, s⟩
    else ⟨.ok (), b.insert "stamp" [1], s⟩
  receive _ _ s := ⟨.ok (), s⟩

def stampingServer : Profile Unit := ⟨.server, 200, some ⟨[.transparent, stampedErrors]⟩, false⟩

/-- A server is asked twice. It answers the first request, which its layers refuse, and fails the
second. -/
def twoAnswers : List Event :=
  let request n := Event.arrive (.frame (.message n .request none (some (List.replicate 8 0xff)) []))
  [.start, request 1, request 3, .answer 0 (.ok [7]), .answer 1 (.error (.ofText 5 "no"))]

theorem twoAnswers_mediated :
    (∀ v ∈ trail stampingServer (archives stampingServer) (.new stampingServer ()) twoAnswers,
      v.IsBounded) ∧
    Mediated stampingServer ⟨[.transparent, stampedErrors]⟩ () twoAnswers (.write 0) := by
  have hbounded : ∀ v ∈ trail stampingServer (archives stampingServer) (.new stampingServer ())
      twoAnswers, v.IsBounded := by
    have htrail : trail stampingServer (archives stampingServer) (.new stampingServer ())
        twoAnswers = [.fault (.ofText 5 "no"), .baggage (Baggage.empty.insert "stamp" [1])] := rfl
    rw [htrail]
    intro v hv
    rcases List.mem_pair.mp hv with rfl | rfl
    · exact ⟨_, rfl⟩
    · exact ⟨Archive.baggageBytes (Baggage.empty.insert "stamp" [1]), by decide +kernel⟩
  exact ⟨hbounded, mediated_of_bounded rfl hbounded (.write 0)⟩

end Connection

end Rpc
