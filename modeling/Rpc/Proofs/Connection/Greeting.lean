import Rpc.Proofs.Connection.Ends
import Rpc.Proofs.Connection.Starting

/-! # Two ends greet each other

A client that connects writes its greeting and takes the first frame of the server for the answer.
The server is up before it has read the greeting, and its application may call at once; so the
first frame is the greeting of the server or the frame of such a call, whichever writer gets the
stream first, and it alone decides how the start of the client ends.
-/
namespace Rpc

open Message

def greetingFrame : Frame := .control (Archive.noticeBytes .greeting)

theorem bodySize_greetingFrame : greetingFrame.bodySize = 33 := by decide

theorem noticeFrame_greeting : noticeFrame .greeting = .ok greetingFrame := rfl

theorem write_greetingFrame {limit : Nat} (h : 33 ≤ limit) :
    greetingFrame.write limit = .ok greetingFrame.bytes := by
  have hwf : greetingFrame.WellFormed := by decide
  have hsize := bodySize_greetingFrame
  exact Frame.write_eq_ok_iff.mpr ⟨hwf, by omega, by omega, rfl⟩

theorem arriving_greetingFrame {limit : Nat} (h : 33 ≤ limit) :
    (Travelling.frame greetingFrame).arriving limit = .frame greetingFrame :=
  if_pos (by rwa [bodySize_greetingFrame])

/-- How the start of a client with some limit ends if this is the first frame that it finds, and
the phase in which it leaves the client. -/
def connectResult (limit : Nat) (f : Frame) : Except TransportError Unit × Phase :=
  if f = greetingFrame then (.ok (), .connected)
  else if f.bodySize ≤ limit then (.error (.protocol (expectedGreeting f.kind)), .disconnected)
  else (.error (.protocol (CodecError.frameTooLarge f.bodySize limit).message), .disconnected)

/-- Whether an event is one of a connection that nobody stops, and that neither breaks nor waits too
long. -/
def Event.isSmooth : Event → Bool
  | .stop | .failWrite _ _ | .handshakeTimeout _ => false
  | _ => true

def Event.isHangUp : Event → Bool
  | .arrive .ended => true
  | .arrive (.broken fault) | .failWrite _ fault => fault.isHangUp
  | _ => false

namespace Connection

variable {σ : Type} {p : Profile σ} {c : Connection σ}

theorem ofCall_travelling {e : Event} (he : e.isOfCall) :
    Travelling.ofOutputs (c.step p e).2 = [] := by
  rw [Travelling.ofOutputs, List.filterMap_eq_nil_iff]
  intro o ho
  obtain ⟨caller, ending, rfl⟩ := ofCall_outputs he o ho
  rfl

/-! ## The client until it is greeted -/

/-- Where the greeting of a client is. -/
inductive Post
  | unwritten
  | waiting
  | underWay
  | taken
  deriving DecidableEq

def Post.travelling : Post → List Travelling
  | .underWay => [.frame greetingFrame]
  | .unwritten | .waiting | .taken => []

/-- Nobody has called or been served, and the stream is open. -/
structure Untouched (c : Connection σ) : Prop where
  shut : c.shut = false
  calls : c.calls = []
  serving : c.serving = []

/-- A client that has heard nothing, and whose greeting is somewhere. -/
inductive Ungreeted (c : Connection σ) : Post → Prop
  | unwritten : c.Untouched → c.loop = .unstarted → c.phase = .created → c.writers = [] →
      Ungreeted c .unwritten
  | waiting (w : Nat) : c.Untouched → c.loop = .greeting → c.phase = .connecting →
      c.writers = [(w, ⟨.greeting, greetingFrame⟩)] → Ungreeted c .waiting
  | written {post : Post} : post = .underWay ∨ post = .taken → c.Untouched → c.loop = .greeted →
      c.phase = .connecting → c.writers = [] → Ungreeted c post

/-- What happens to calls is nothing as long as there are none and the door is closed. -/
theorem Untouched.ofCall (h : c.Untouched) (hphase : c.phase ≠ .connected) {e : Event}
    (he : e.isOfCall) : (c.step p e).1 = c := by
  have hnone : ∀ caller, c.call? caller = none := fun caller => by rw [call?, h.calls]; rfl
  cases e with
  | call caller expects context moment method payload =>
    simp only [step, call, hnone, Option.isSome_none, Bool.false_eq_true, if_false, gate]
    cases hp : c.phase with
    | connected => exact absurd hp hphase
    | created | connecting | disconnecting | disconnected => rfl
  | advance caller => simp only [step, advance, hnone]
  | expire caller => simp only [step, expire, hnone]
  | cancel caller => simp only [step, cancel, hnone]
  | abandon caller =>
    simp only [step, abandon, forget, hnone, Option.bind_none, h.calls, List.filter_nil]
    rw [← h.calls]
  | answer handler result =>
    have hlookup : c.serving.lookup handler = none := by rw [h.serving]; rfl
    simp only [step, answer, hlookup]
  | _ => cases he

/-- A step of a client that hears nothing moves its greeting on, or nothing. -/
structure GreetingStep (e : Event) (q : Progress σ) (post after : Post) : Prop where
  ungreeted : q.1.Ungreeted after
  quiet : q.2.filterMap Output.started? = []
  travelling : after.travelling = post.travelling ++ Travelling.ofOutputs q.2
  taken : after = .taken ↔ post = .taken
  unwritten : after = .unwritten → post = .unwritten ∧ e ≠ .start

theorem Ungreeted.stay {post : Post} (h : c.Ungreeted post) {e : Event} {q : Progress σ}
    (hq : q.1 = c) (hquiet : q.2.filterMap Output.started? = [])
    (hout : Travelling.ofOutputs q.2 = []) (hstart : e = .start → post ≠ .unwritten) :
    GreetingStep e q post post where
  ungreeted := by rwa [hq]
  quiet := hquiet
  travelling := by rw [hout, List.append_nil]
  taken := Iff.rfl
  unwritten := fun hpost => ⟨hpost, fun he => hstart he hpost⟩

theorem Ungreeted.untouched {post : Post} (h : c.Ungreeted post) :
    c.Untouched ∧ c.phase ≠ .connected := by
  cases h with
  | unwritten hu hloop hphase hw => exact ⟨hu, by simp [hphase]⟩
  | waiting w hu hloop hphase hw => exact ⟨hu, by simp [hphase]⟩
  | written hpost hu hloop hphase hw => exact ⟨hu, by simp [hphase]⟩

theorem Ungreeted.start {post : Post} (h : c.Ungreeted post) (hside : p.side = .client)
    (hlimit : 33 ≤ p.limit) : ∃ after, GreetingStep .start (c.step p .start) post after := by
  cases h with
  | unwritten hu hloop hphase hw =>
    refine ⟨.waiting, ?_⟩
    have hstep : c.step p .start = ({ c with
        phase := .connecting
        writers := c.writers ++ [(c.nextWriter, ⟨.greeting, greetingFrame⟩)]
        nextWriter := c.nextWriter + 1
        loop := .greeting }, []) := by
      simp [step, Connection.start, hloop, hside, hu.shut, noticeFrame_greeting, enqueue,
        write_greetingFrame hlimit]
    rw [hstep]
    refine ⟨.waiting c.nextWriter ⟨hu.shut, hu.calls, hu.serving⟩ rfl rfl ?_, rfl, rfl, by simp,
      by simp⟩
    simp only [hw, List.nil_append]
  | waiting w hu hloop hphase hw =>
    have hstep : c.step p .start = (c, []) := by simp [step, Connection.start, hloop]
    have h : c.Ungreeted .waiting := .waiting w hu hloop hphase hw
    rw [hstep]
    exact ⟨_, h.stay rfl rfl rfl fun _ => by simp⟩
  | written hpost hu hloop hphase hw =>
    have hstep : c.step p .start = (c, []) := by simp [step, Connection.start, hloop]
    have h : c.Ungreeted post := .written hpost hu hloop hphase hw
    rw [hstep]
    exact ⟨_, h.stay rfl rfl rfl fun _ he => by simp [he] at hpost⟩

theorem Ungreeted.write {post : Post} (h : c.Ungreeted post) (w : Nat) :
    ∃ after, GreetingStep (.write w) (c.step p (.write w)) post after := by
  cases hlookup : c.writers.lookup w with
  | none =>
    have hstep : c.step p (.write w) = (c, []) := by simp [step, Connection.write, hlookup]
    rw [hstep]
    exact ⟨post, h.stay rfl rfl rfl (by simp)⟩
  | some v =>
    have hmem := mem_of_lookup hlookup
    cases h with
    | unwritten hu hloop hphase hw =>
      rw [hw] at hmem
      cases hmem
    | written hpost hu hloop hphase hw =>
      rw [hw] at hmem
      cases hmem
    | waiting w' hu hloop hphase hw =>
      rw [hw] at hmem
      cases List.mem_singleton.mp hmem
      have hstep : c.step p (.write w) =
          ({ c.dropWriter w with loop := .greeted }, [.sent greetingFrame]) := by
        have hshut : (c.dropWriter w).shut = false := hu.shut
        have hloop' : (c.dropWriter w).loop = .greeting := hloop
        simp [step, Connection.write, hlookup, hshut, resume, hloop']
      refine ⟨.underWay, ?_⟩
      rw [hstep]
      refine ⟨.written (.inl rfl) ⟨hu.shut, hu.calls, hu.serving⟩ rfl hphase ?_, rfl, rfl, by simp,
        by simp⟩
      simp [dropWriter, hw]

/-- Whatever a client does before it hears something, its greeting gets on its way once. -/
theorem Ungreeted.step {post : Post} (h : c.Ungreeted post) (hside : p.side = .client)
    (hlimit : 33 ≤ p.limit) {e : Event} (hsmooth : e.isSmooth) (harrive : ∀ i, e ≠ .arrive i) :
    ∃ after, GreetingStep e (c.step p e) post after := by
  by_cases he : e.isOfCall
  · obtain ⟨hu, hphase⟩ := h.untouched
    refine ⟨post, h.stay (hu.ofCall hphase he) (ofCall_started he) (ofCall_travelling he) ?_⟩
    rintro rfl
    cases he
  · cases e with
    | start => exact h.start hside hlimit
    | write w => exact h.write w
    | arrive incoming => exact absurd rfl (harrive incoming)
    | failWrite w fault => cases hsmooth
    | handshakeTimeout waited => cases hsmooth
    | stop => cases hsmooth
    | _ => simp [Event.isOfCall] at he

/-! ## The server until it is heard -/

/-- A frame that a server may send before its client has heard anything. -/
def Early (f : Frame) : Prop := f = greetingFrame ∨ f.kind.namesMethod = true

/-- A server that is up, whose application may call but has nothing to answer. -/
structure Up (c : Connection σ) : Prop where
  phase : c.phase = .connected
  shut : c.shut = false
  serving : c.serving = []
  below : KeysBelow c.writers c.nextWriter
  messages : ∀ x ∈ c.writers, x.2.purpose.isMessage = true → x.2.frame.kind.namesMethod = true

/-- Where a server stands that may have taken in the greeting of its client, given what it has put
on the way. -/
inductive Offers (c : Connection σ) (out : List Travelling) : (taken : Bool) → Prop
  | unstarted : c.Untouched → c.loop = .unstarted → c.phase = .created → c.writers = [] →
      Offers c out false
  | reading : c.Up → c.loop = .reading → c.loopWriters = [] → Offers c out false
  | answering (w : Nat) : c.Up → c.loop = .paused →
      c.loopWriters = [(w, ⟨.greetingBack, greetingFrame⟩)] → Offers c out true
  | answered : c.Up → c.loop = .reading → c.loopWriters = [] → .frame greetingFrame ∈ out →
      Offers c out true

theorem Up.messages_step (h : c.Up) (e : Event) :
    ∀ x ∈ (c.step p e).1.writers, x.2.purpose.isMessage = true →
      x.2.frame.kind.namesMethod = true := by
  rcases writers_step (p := p) (c := c) e with ⟨hw, -⟩ | ⟨purpose, f, henlists, -, hw, -⟩
  · intro x hx
    rw [hw, waitingWriters] at hx
    split at hx
    · exact h.messages x (List.mem_filter.mp hx).1
    · exact h.messages x hx
  · intro x hx
    rw [hw] at hx
    rcases List.mem_append.mp hx with hx | hx
    · exact h.messages x hx
    · rw [List.mem_singleton.mp hx]
      intro hmessage
      cases henlists with
      | call hk hn hf =>
        rw [(callFrame_kind hf).1, Call.kind]
        split <;> rfl
      | answer hn hf =>
        rw [h.serving] at hn
        cases hn
      | turnDown hl hr hf => cases hmessage
      | notice he hf hp =>
        simp only [List.mem_cons, List.not_mem_nil, or_false] at hp
        rcases hp with rfl | rfl | rfl | rfl <;> cases hmessage

theorem Up.serving_step (h : c.Up) {e : Event} (harrive : ∀ i, e ≠ .arrive i) :
    (c.step p e).1.serving = [] := by
  have htakes : c.takes p e = [] := by
    cases e with
    | arrive incoming => exact absurd rfl (harrive incoming)
    | _ => rfl
  have hbusy : c.busyHandlers e = [] := by
    unfold busyHandlers
    split <;> simp [h.serving]
  rw [(handlers_step e).1, htakes, hbusy]
  rfl

theorem Up.step (h : c.Up) {e : Event} (harrive : ∀ i, e ≠ .arrive i)
    (hphase : (c.step p e).1.phase = .connected) (hshut : (c.step p e).1.shut = false) :
    (c.step p e).1.Up :=
  ⟨hphase, hshut, h.serving_step harrive, writersBelow_step h.below, h.messages_step e⟩

theorem Offers.up {out : List Travelling} {taken : Bool} (h : c.Offers out taken)
    (hloop : c.loop ≠ .unstarted) : c.Up := by
  cases h with
  | unstarted hu hl hphase hw => exact absurd hl hloop
  | reading hup hl hw => exact hup
  | answering w hup hl hw => exact hup
  | answered hup hl hw hmem => exact hup

theorem Offers.keep {out : List Travelling} {taken : Bool} (h : c.Offers out taken)
    (hloop : c.loop ≠ .unstarted) {after : Connection σ} (hkeep : KeepsLoop c after)
    (hup : after.Up) (more : List Travelling) : after.Offers (out ++ more) taken := by
  cases h with
  | unstarted hu hl hphase hw => exact absurd hl hloop
  | reading _ hl hw => exact .reading hup (hkeep.loop.trans hl) (hkeep.writers.trans hw)
  | answering w _ hl hw => exact .answering w hup (hkeep.loop.trans hl) (hkeep.writers.trans hw)
  | answered _ hl hw hmem =>
    exact .answered hup (hkeep.loop.trans hl) (hkeep.writers.trans hw)
      (List.mem_append_left more hmem)

theorem Offers.of_unstarted {out : List Travelling} {taken : Bool} (h : c.Offers out taken)
    (hloop : c.loop = .unstarted) :
    taken = false ∧ c.Untouched ∧ c.phase = .created ∧ c.writers = [] := by
  cases h with
  | unstarted hu hl hphase hw => exact ⟨rfl, hu, hphase, hw⟩
  | reading hup hl hw => exact absurd (hloop.symm.trans hl) (by decide)
  | answering w hup hl hw => exact absurd (hloop.symm.trans hl) (by decide)
  | answered hup hl hw hg => exact absurd (hloop.symm.trans hl) (by decide)

/-- A step of a server puts early frames on the way only, and leaves it where it stands until it
takes something in. -/
structure OfferStep (e : Event) (before : Connection σ) (q : Progress σ) (out : List Travelling)
    (taken : Bool) : Prop where
  offers : q.1.Offers (out ++ Travelling.ofOutputs q.2) taken
  early : ∀ piece ∈ Travelling.ofOutputs q.2, ∃ f, piece = .frame f ∧ Early f
  unstarted : q.1.loop = .unstarted → before.loop = .unstarted ∧ e ≠ .start

variable {out : List Travelling} {taken : Bool}

theorem Offers.stay (h : c.Offers out taken) {e : Event} {q : Progress σ} (hq : q.1 = c)
    (hout : Travelling.ofOutputs q.2 = []) (hstart : e = .start → c.loop ≠ .unstarted) :
    OfferStep e c q out taken where
  offers := by rwa [hq, hout, List.append_nil]
  early := by simp [hout]
  unstarted := fun hl => by
    rw [hq] at hl
    exact ⟨hl, fun he => hstart he hl⟩

theorem resume_travelling {result : Except TransportError Unit} {purpose : Purpose}
    (hpurpose : purpose.isMessage = true) :
    Travelling.ofOutputs (c.resume p result purpose).2 = [] := by
  cases purpose with
  | call caller n =>
    simp only [resume]
    cases c.call? caller with
    | none => rfl
    | some k =>
      by_cases hs : k.stage = .writing n
      · simp only [if_pos hs]
        cases result with
        | error e => rfl
        | ok _ => cases k.expectsAnswer <;> rfl
      · simp only [if_neg hs]
        rfl
  | answer => rfl
  | _ => cases hpurpose

theorem Offers.write (h : c.Offers out taken) (w : Nat) :
    OfferStep (.write w) c (c.step p (.write w)) out taken := by
  cases hlookup : c.writers.lookup w with
  | none =>
    have hstep : c.step p (.write w) = (c, []) := by simp [step, Connection.write, hlookup]
    rw [hstep]
    exact h.stay rfl rfl (by simp)
  | some v =>
    have hmem := mem_of_lookup hlookup
    have hloop : c.loop ≠ .unstarted := by
      intro hl
      rw [(h.of_unstarted hl).2.2.2] at hmem
      cases hmem
    have hup := h.up hloop
    have hshut : (c.dropWriter w).shut = false := hup.shut
    have hstep : c.step p (.write w) =
        (((c.dropWriter w).resume p (.ok ()) v.purpose).1,
          .sent v.frame :: ((c.dropWriter w).resume p (.ok ()) v.purpose).2) := by
      simp [step, Connection.write, hlookup, hshut]
    -- The writer of a message leaves the loop where it is; the other one is that of the greeting.
    cases hpurpose : v.purpose.isMessage with
    | true =>
      have hkeep : KeepsLoop c (c.step p (.write w)).1 := by
        rw [hstep]
        exact (keepsLoop_dropWriter hup.below hlookup hpurpose).trans (resume_keepsLoop hpurpose)
      have hafter : (c.step p (.write w)).1.Up :=
        hup.step (by simp) (hkeep.phase.trans hup.phase) (hkeep.shut.trans hup.shut)
      have hsent : Travelling.ofOutputs (c.step p (.write w)).2 = [.frame v.frame] := by
        have hquiet : Travelling.ofOutputs ((c.dropWriter w).resume p (.ok ()) v.purpose).2 = [] :=
          resume_travelling hpurpose
        rw [hstep]
        exact congrArg (Travelling.frame v.frame :: ·) hquiet
      refine ⟨h.keep hloop hkeep hafter _, ?_, ?_⟩
      · intro piece hpiece
        rw [hsent] at hpiece
        exact ⟨v.frame, List.mem_singleton.mp hpiece, .inr (hup.messages _ hmem hpurpose)⟩
      · intro hl
        exact absurd (hkeep.loop.symm.trans hl) hloop
    | false =>
      have hloopWriter : (w, v) ∈ c.loopWriters :=
        List.mem_filter.mpr ⟨hmem, by simp [hpurpose]⟩
      cases h with
      | unstarted hu hl hphase hw => exact absurd hl hloop
      | reading _ hl hw =>
        rw [hw] at hloopWriter
        cases hloopWriter
      | answered _ hl hw hg =>
        rw [hw] at hloopWriter
        cases hloopWriter
      | answering w' _ hl hw =>
        rw [hw] at hloopWriter
        cases List.mem_singleton.mp hloopWriter
        have hafter : (c.step p (.write w)).1.Up :=
          hup.step (by simp) (by rw [hstep]; exact hup.phase) (by rw [hstep]; exact hup.shut)
        have hnone : (c.dropWriter w).loopWriters = [] := by
          rw [loopWriters_dropWriter, hw]
          simp
        rw [hstep] at hafter ⊢
        refine ⟨.answered hafter rfl hnone ?_, ?_, ?_⟩
        · exact List.mem_append_right _ List.mem_cons_self
        · intro piece hpiece
          exact ⟨greetingFrame, List.mem_singleton.mp hpiece, .inl rfl⟩
        · intro hl'
          cases hl'

/-- Whatever a server does before it takes something in, it puts early frames on the way only. -/
theorem Offers.step (h : c.Offers out taken) (hside : p.side = .server) {e : Event}
    (hsmooth : e.isSmooth) (harrive : ∀ i, e ≠ .arrive i) :
    OfferStep e c (c.step p e) out taken := by
  by_cases hcall : e.isOfCall
  · have hstart : e ≠ .start := by
      rintro rfl
      cases hcall
    by_cases hloop : c.loop = .unstarted
    · obtain ⟨-, hu, hphase, -⟩ := h.of_unstarted hloop
      exact h.stay (hu.ofCall (by simp [hphase]) hcall) (ofCall_travelling hcall)
        fun he => absurd he hstart
    · have hkeep : KeepsLoop c (c.step p e).1 := ofCall_keepsLoop hcall
      have hup := h.up hloop
      have hafter : (c.step p e).1.Up :=
        hup.step harrive (hkeep.phase.trans hup.phase) (hkeep.shut.trans hup.shut)
      refine ⟨h.keep hloop hkeep hafter _, ?_, ?_⟩
      · simp [ofCall_travelling hcall]
      · intro hl
        exact absurd (hkeep.loop.symm.trans hl) hloop
  · cases e with
    | start =>
      by_cases hloop : c.loop = .unstarted
      · obtain ⟨htaken, hu, -, hw⟩ := h.of_unstarted hloop
        have hstep : c.step p .start =
            ({ c with phase := .connected, loop := .reading }, [.opened]) := by
          simp [Connection.step, Connection.start, hloop, hside, hu.shut, establish]
        have hup : ({ c with phase := .connected, loop := .reading } : Connection σ).Up := by
          refine ⟨rfl, hu.shut, hu.serving, ?_, ?_⟩
          · simp only [hw]
            exact .nil _
          · simp [hw]
        rw [hstep, htaken]
        refine ⟨.reading hup rfl (by simp [loopWriters, hw]), ?_, ?_⟩
        · intro piece hpiece
          cases hpiece
        · intro hl'
          cases hl'
      · have hstep : c.step p .start = (c, []) := by
          simp [Connection.step, Connection.start, hloop]
        rw [hstep]
        exact h.stay rfl rfl fun _ => hloop
    | write w => exact h.write w
    | arrive incoming => exact absurd rfl (harrive incoming)
    | failWrite w fault => cases hsmooth
    | handshakeTimeout waited => cases hsmooth
    | stop => cases hsmooth
    | _ => simp [Event.isOfCall] at hcall

theorem Offers.hears (h : c.Offers out false) (hside : p.side = .server) (hlimit : 33 ≤ p.limit)
    (hready : c.loop.isReady = true) :
    (c.step p (.arrive (.frame greetingFrame))).1.Offers out true ∧
      (c.step p (.arrive (.frame greetingFrame))).1.loop = .paused ∧
      Travelling.ofOutputs (c.step p (.arrive (.frame greetingFrame))).2 = [] := by
  cases h with
  | unstarted hu hl hphase hw => simp [hl, Loop.isReady] at hready
  | reading hup hl hw =>
    have hreact : react p.side p.stack greetingFrame c.surroundings =
        (.greetBack, c.surroundings) := by
      rw [hside]
      rfl
    have hstep : c.step p (.arrive (.frame greetingFrame)) = ({ c with
        writers := c.writers ++ [(c.nextWriter, ⟨.greetingBack, greetingFrame⟩)]
        nextWriter := c.nextWriter + 1
        loop := .paused }, [.received .control]) := by
      simp only [Connection.step, arrive, hl, accept, hreact, follow, noticeFrame_greeting,
        say_of_ok (write_greetingFrame hlimit)]
      rfl
    rw [hstep]
    refine ⟨.answering c.nextWriter ⟨hup.phase, hup.shut, hup.serving, hup.below.concat _, ?_⟩ rfl
      (loopWriters_concat hw rfl rfl), rfl, rfl⟩
    intro x hx hmessage
    rcases List.mem_append.mp hx with hx | hx
    · exact hup.messages x hx hmessage
    · rw [List.mem_singleton.mp hx] at hmessage
      cases hmessage

theorem failHandshake_tells (e : TransportError) :
    (c.failHandshake e).1.loop.isStarting = false ∧
      (c.failHandshake e).2.filterMap Output.started? = [.error e] := by
  obtain ⟨hloop, hquiet⟩ := leave_settles (c := c)
  refine ⟨hloop, ?_⟩
  change (c.leave.2 ++ [Output.started (.error e)]).filterMap Output.started? = _
  rw [List.filterMap_append, hquiet]
  rfl

theorem failHandshake_settles (hphase : c.phase = .connecting) (e : TransportError) :
    (c.failHandshake e).1.loop.isStarting = false ∧ (c.failHandshake e).1.phase = .disconnected ∧
      (c.failHandshake e).2.filterMap Output.started? = [.error e] := by
  obtain ⟨hloop, htells⟩ := failHandshake_tells (c := c) e
  refine ⟨hloop, ?_, htells⟩
  simp [failHandshake, leave, teardown, hphase, Phase.isOver, Phase.rank]

/-- A client that misses a certificate and has heard nothing takes a hang-up for the want of it. -/
theorem Ungreeted.turnedDown {post : Post} (h : c.Ungreeted post)
    (hmissing : p.certificateMissing = true) {e : Event} (he : e.isHangUp = true) :
    c.step p e = (c, []) ∨ (c.step p e).1.loop.isStarting = false ∧
      (c.step p e).2.filterMap Output.started? = [.error .clientCertificateRequired] := by
  cases e with
  | arrive incoming =>
    cases h with
    | unwritten _ hloop | waiting _ _ hloop => exact Or.inl (by simp [Connection.step, arrive, hloop])
    | written _ _ hloop =>
      right
      cases incoming with
      | ended =>
        have hblame : blame p.certificateMissing .connectionClosed =
            .clientCertificateRequired := by
          simp [blame, hmissing, TransportError.isHangUp]
        simp only [Connection.step, arrive, hloop, greet, hblame]
        exact failHandshake_tells _
      | broken fault =>
        have hfault : fault.isHangUp = true := he
        have hblame : blameRead p.certificateMissing fault = .clientCertificateRequired := by
          simp [blameRead, blame, hmissing, TransportError.isHangUp, hfault]
        simp only [Connection.step, arrive, hloop, greet, hblame]
        exact failHandshake_tells _
      | frame f => cases he
      | malformed cause => cases he
  | failWrite w fault =>
    have hfault : fault.isHangUp = true := he
    cases hlookup : c.writers.lookup w with
    | none => exact Or.inl (by simp [Connection.step, failWrite, hlookup])
    | some v =>
      have hmem := mem_of_lookup hlookup
      cases h with
      | unwritten _ _ _ hw | written _ _ _ _ hw =>
        rw [hw] at hmem
        cases hmem
      | waiting w' hu hloop _ hw =>
        rw [hw] at hmem
        cases List.mem_singleton.mp hmem
        have hshut : (c.dropWriter w).shut = false := hu.shut
        have hloop' : (c.dropWriter w).teardown.1.loop = .greeting := by
          rw [teardown_loop]
          exact hloop
        have hquiet : (c.dropWriter w).teardown.2.filterMap Output.started? = [] := by
          unfold teardown
          split <;> rfl
        have hblame : blame p.certificateMissing (.io fault) = .clientCertificateRequired := by
          simp [blame, hmissing, TransportError.isHangUp, hfault]
        right
        simp only [Connection.step, failWrite, hlookup, hshut, Progress.andThen, resume, hloop', hblame,
          Bool.false_eq_true, if_false, List.filterMap_append, hquiet, List.nil_append]
        exact failHandshake_tells _
  | _ => cases he

theorem Ungreeted.hears {post : Post} (h : c.Ungreeted post) (hready : c.loop.isReady = true)
    (hlimit : 33 ≤ p.limit) {f : Frame} (hf : Early f) :
    (c.step p (.arrive ((Travelling.frame f).arriving p.limit))).1.loop.isStarting = false ∧
      ((c.step p (.arrive ((Travelling.frame f).arriving p.limit))).2.filterMap
        Output.started?).map
          (·, (c.step p (.arrive ((Travelling.frame f).arriving p.limit))).1.phase) =
        [connectResult p.limit f] := by
  cases h with
  | unwritten hu hl hphase hw => simp [hl, Loop.isReady] at hready
  | waiting w hu hl hphase hw => simp [hl, Loop.isReady] at hready
  | written hpost hu hl hphase hw =>
    by_cases hgreeting : f = greetingFrame
    · subst hgreeting
      have hexpect : expectGreeting greetingFrame = .ok () := rfl
      have hstep : c.step p (.arrive (.frame greetingFrame)) =
          ({ c with phase := .connected, loop := .reading },
            [.received .control, .opened, .started (.ok ())]) := by
        simp only [Connection.step, arrive, hl, greet, hexpect]
        rfl
      rw [arriving_greetingFrame hlimit, hstep]
      exact ⟨rfl, rfl⟩
    · have hname : f.kind.namesMethod = true := hf.resolve_left hgreeting
      have hkind : f.kind ≠ .control := fun hk => by
        rw [hk] at hname
        cases hname
      have hexpect : expectGreeting f = .error (.protocol (expectedGreeting f.kind)) := if_neg hkind
      simp only [connectResult, if_neg hgreeting, Travelling.arriving]
      by_cases hsize : f.bodySize ≤ p.limit
      · obtain ⟨hloop, hdown, hresult⟩ := failHandshake_settles hphase
          (.protocol (expectedGreeting f.kind))
        simp only [if_pos hsize, Connection.step, arrive, hl, greet, hexpect, List.filterMap_cons,
          Output.started?, hresult, hdown]
        exact ⟨hloop, rfl⟩
      · obtain ⟨hloop, hdown, hresult⟩ := failHandshake_settles hphase
          (.protocol (CodecError.frameTooLarge f.bodySize p.limit).message)
        simp only [if_neg hsize, Connection.step, arrive, hl, greet, hresult, hdown]
        exact ⟨hloop, rfl⟩

end Connection

end Rpc
