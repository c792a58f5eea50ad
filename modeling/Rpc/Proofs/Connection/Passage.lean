import Rpc.Proofs.Archive.Contents
import Rpc.Proofs.Connection.Stream
import Rpc.Proofs.Layer.Walks

/-! # From one application to the other

A request or an event that the layers of its sender let out becomes a frame, and the frame the
octets on the wire. However the octets are cut, the receiver takes them for this frame, and if its
layers let the message in, the application is handed the method and the payload that the sender was
given, with the baggage that the sender's layers left. Two archives, the order of the parts, and a
baggage part that may be missing lie between the two ends, and none of them shows.
-/
namespace Rpc

open Message

variable {σ τ : Type}

/-- A message leaves an end with some baggage; without layers it leaves as it is. -/
def Departs (stack : Option (Stack σ)) (k : Kind) (b : Baggage) (s : σ) (left : Baggage)
    (s' : σ) : Prop :=
  match stack with
  | some stack => Layer.Passes k stack.layers b s left s'
  | none => left = b ∧ s' = s

/-- A message is let in with its baggage. -/
def Enters (stack : Option (Stack τ)) (k : Kind) (b : Baggage) (t t' : τ) : Prop :=
  match stack with
  | some stack => Layer.Admits k b stack.layers.reverse t t'
  | none => t' = t

namespace Call

variable (k : Call) (stack : Option (Stack σ)) (n : UInt64) (left : Baggage)

/-- The frame of a call whose baggage has left the layers. Without layers an empty baggage is left
out. -/
def parcel : Frame :=
  .message n k.kind
    (if stack.isNone ∧ left.isEmpty then none else some (Archive.baggageBytes left))
    (some (Archive.headingBytes ⟨k.method⟩)) k.payload

/-- What the application of the peer is to be handed. -/
def delivery : Delivery := ⟨k.method, k.payload, left⟩

/-- The texts and the archive of a message are within their limits, and its frame is within those of
both ends. -/
structure Fits (limit limit' : Nat) : Prop where
  method : (Bytes.ofText k.method).length < 1073741824
  keys : ∀ e ∈ left.entries, (Bytes.ofText e.1).length < 1073741824
  baggage : (Archive.baggageBytes left).length < 2147483648
  sender : (k.parcel stack n left).bodySize ≤ limit
  receiver : (k.parcel stack n left).bodySize ≤ limit'
  word : (k.parcel stack n left).bodySize < 4294967296

end Call

section Frames

variable {k : Call} {stack : Option (Stack σ)} {n : UInt64} {left : Baggage} {limit limit' : Nat}

theorem Call.kind_cases (k : Call) : k.kind = .request ∨ k.kind = .event := by
  unfold Call.kind
  cases k.expectsAnswer
  · exact Or.inr rfl
  · exact Or.inl rfl

theorem length_headingBytes_lt {h : Heading} (htext : (Bytes.ofText h.method).length < 1073741824) :
    (Archive.headingBytes h).length < 2147483648 := by
  have hlong : (Archive.longText (Bytes.ofText h.method)).length < 1073741824 := by
    unfold Archive.longText
    split
    · exact Nat.zero_lt_of_lt htext
    · exact htext
  unfold Archive.headingBytes Archive.finish Bytes.padding
  simp only [List.length_append, List.length_replicate, Archive.length_textCell]
  omega

theorem Call.wellFormed_parcel (k : Call) (stack : Option (Stack σ)) (n : UInt64)
    (left : Baggage) : (k.parcel stack n left).WellFormed := by
  unfold Frame.WellFormed Call.parcel
  rcases k.kind_cases with hk | hk <;> rw [hk] <;> split <;>
    simp [Frame.message, Frame.roles, Frame.layouts]

namespace Call.Fits

variable (h : k.Fits stack n left limit limit')

include h

theorem heading : Heading.toBytes ⟨k.method⟩ = .ok (Archive.headingBytes ⟨k.method⟩) ∧
    Heading.ofBytes (Archive.headingBytes ⟨k.method⟩) = .ok ⟨k.method⟩ :=
  contents_read_back.1 ⟨k.method⟩ h.method (length_headingBytes_lt (h := ⟨k.method⟩) h.method)

theorem archive : left.toBytes = .ok (Archive.baggageBytes left) ∧
    Baggage.ofBytes (Archive.baggageBytes left) = .ok left :=
  contents_read_back.2.2.2 left h.keys h.baggage

theorem written : (k.parcel stack n left).write limit = .ok (k.parcel stack n left).bytes :=
  Frame.write_eq_ok_iff.mpr ⟨k.wellFormed_parcel stack n left, h.sender, h.word, rfl⟩

/-- The receiver would write the frame too, so it reads it. -/
theorem written' : (k.parcel stack n left).write limit' = .ok (k.parcel stack n left).bytes :=
  Frame.write_eq_ok_iff.mpr ⟨k.wellFormed_parcel stack n left, h.receiver, h.word, rfl⟩

theorem built {s s' : σ} (hout : Departs stack k.kind k.context.baggage s left s') :
    messageFrame stack n k.kind k.context.baggage (some k.method) k.payload s =
      (.ok (k.parcel stack n left), s') := by
  have hpacked : packBaggage stack k.kind k.context.baggage s =
      (.ok (if stack.isNone ∧ left.isEmpty then none else some (Archive.baggageBytes left)),
        s') := by
    cases stack with
    | none =>
      obtain ⟨rfl, rfl⟩ := hout
      cases hempty : k.context.baggage.isEmpty <;> simp [packBaggage, hempty, h.archive.1]
    | some stack =>
      have hsend : stack.send k.kind k.context.baggage s = ⟨.ok (), left, s'⟩ :=
        Layer.passes_iff.mp hout
      simp [packBaggage, hsend, h.archive.1]
  simp only [messageFrame, hpacked, packHeading, h.heading.1]
  rfl

/-! ## Reading the frame -/

theorem frameBaggage_parcel : frameBaggage (k.parcel stack n left) = .ok left := by
  unfold frameBaggage Call.parcel
  split
  · rename_i content hcontent
    split at hcontent
    · cases hcontent
    · cases hcontent
      exact h.archive.2
  · rename_i hnone
    split at hnone
    · -- only an empty baggage is left out
      rename_i hempty
      exact congrArg _ (Baggage.ext (List.isEmpty_iff.mp hempty.2)).symm
    · cases hnone

theorem frameHeading_parcel : frameHeading (k.parcel stack n left) = .ok ⟨k.method⟩ := by
  have hcontent : (k.parcel stack n left).content? .heading =
      some (Archive.headingBytes ⟨k.method⟩) := by
    unfold Call.parcel
    split <;> rfl
  unfold frameHeading
  rw [hcontent]
  exact h.heading.2

omit h in
theorem framePayload_parcel : framePayload (k.parcel stack n left) = k.payload := by
  have hcontent : (k.parcel stack n left).content? .payload = some k.payload := by
    unfold Call.parcel
    split <;> rfl
  rw [framePayload, hcontent]
  rfl

theorem react_parcel (side : Side) {stack' : Option (Stack τ)} {t t' : τ}
    (hin : Enters stack' k.kind left t t') :
    react side stack' (k.parcel stack n left) t =
      (if k.expectsAnswer then .serve n (k.delivery left) else .notify (k.delivery left), t') := by
  have hinspect : inspect stack' k.kind left t = ⟨.ok (), t'⟩ := by
    cases stack' with
    | none =>
      cases hin
      rfl
    | some stack' => exact Layer.admits_iff.mp hin
  have hkind : (k.parcel stack n left).kind = k.kind := rfl
  have hnumber : (k.parcel stack n left).conversation = n := rfl
  have hreact : react side stack' (k.parcel stack n left) t =
      reactToMessage stack' (k.parcel stack n left) t := by
    unfold react
    rw [hkind]
    rcases k.kind_cases with hk | hk <;> rw [hk]
  rw [hreact]
  simp only [reactToMessage, h.frameBaggage_parcel, h.frameHeading_parcel, framePayload_parcel,
    hkind, hinspect, hnumber]
  unfold Call.kind Call.delivery
  cases k.expectsAnswer <;> rfl

end Call.Fits

end Frames

/-! ## Sending -/

namespace Connection

variable {p : Profile σ} {c : Connection σ}

/-- A writer waits until it gets the stream. -/
theorem writer_step {w : Nat} {v : Writer} (h : (w, v) ∈ c.writers) {e : Event}
    (he : doneWriter? e ≠ some w) : (w, v) ∈ (c.step p e).1.writers := by
  rcases writers_step (p := p) (c := c) e with ⟨hw, -⟩ | ⟨_, _, -, -, hw, -⟩
  · rw [hw, waitingWriters]
    cases hdone : doneWriter? e with
    | none => exact h
    | some w' =>
      refine List.mem_filter.mpr ⟨h, decide_eq_true ?_⟩
      rintro rfl
      exact he hdone
  · rw [hw]
    exact List.mem_append_left _ h

theorem writer_run {w : Nat} {v : Writer} (h : (w, v) ∈ c.writers) {es : List Event}
    (hes : ∀ e ∈ es, doneWriter? e ≠ some w) : (w, v) ∈ (run p c es).1.writers := by
  induction es generalizing c with
  | nil => exact h
  | cons e es ih =>
    exact ih (writer_step h (hes e List.mem_cons_self))
      fun e' he' => hes e' (List.mem_cons_of_mem e he')

theorem write_of_mem {w : Nat} {v : Writer} (hw : KeysBelow c.writers c.nextWriter)
    (h : (w, v) ∈ c.writers) (hopen : c.shut = false) :
    ∃ later, (c.step p (.write w)).2 = .sent v.frame :: later := by
  have hlookup := lookup_of_mem hw.nodup h
  have hshut : (c.dropWriter w).shut = false := hopen
  simp only [step, write, hlookup, hshut, Bool.false_eq_true, if_false]
  exact ⟨_, rfl⟩

variable (p c) in
/-- The frame of a call goes to a writer, and onto the wire as soon as the writer gets the stream,
unless the stream has been shut by then. -/
structure Dispatches (caller : Nat) (f : Frame) : Prop where
  encoded : f.write p.limit = .ok f.bytes
  queued : (c.step p (.advance caller)).2 = []
  sent : ∀ es, (∀ e ∈ es, doneWriter? e ≠ some c.nextWriter) →
    (run p (c.step p (.advance caller)).1 es).1.shut = false →
    ∃ later, ((run p (c.step p (.advance caller)).1 es).1.step p (.write c.nextWriter)).2 =
      .sent f :: later

theorem dispatches_of_departs (hw : KeysBelow c.writers c.nextWriter) {caller limit' : Nat}
    {k : Call} {n : UInt64} {left : Baggage} {s' : σ} (hk : c.call? caller = some k)
    (hn : k.stage = .numbered n)
    (hout : Departs p.stack k.kind k.context.baggage c.surroundings left s')
    (hfits : k.Fits p.stack n left p.limit limit') :
    Dispatches p c caller (k.parcel p.stack n left) := by
  have hbuilt := hfits.built hout
  unfold Call.kind at hbuilt
  have hstep : c.step p (.advance caller) =
      ({ c with
          surroundings := s'
          writers := c.writers ++
            [(c.nextWriter, Writer.mk (.call caller n) (k.parcel p.stack n left))]
          nextWriter := c.nextWriter + 1 }.setStage caller (.writing n), []) := by
    simp only [step, advance, hk, hn, frame, hbuilt, enqueue, hfits.written]
  refine ⟨hfits.written, by rw [hstep], fun es hes hopen => ?_⟩
  have hbelow : KeysBelow (run p (c.step p (.advance caller)).1 es).1.writers
      (run p (c.step p (.advance caller)).1 es).1.nextWriter :=
    run_preserves (I := fun c => KeysBelow c.writers c.nextWriter)
      (fun _ _ => writersBelow_step) (writersBelow_step hw) es
  have hmem : (c.nextWriter, Writer.mk (.call caller n) (k.parcel p.stack n left)) ∈
      (c.step p (.advance caller)).1.writers := by
    rw [hstep]
    exact List.mem_append_right _ (List.mem_singleton_self _)
  exact write_of_mem hbelow (writer_run hmem hes) hopen

end Connection

/-! ## Receiving -/

namespace Receiver

variable {q : Profile τ} {r : Receiver τ}

variable (q) in
/-- Whoever finds a frame at the front of what comes waits for all of it, and then hands what it
brings to the application as soon as the receive loop takes it in, if the layers let it in. -/
structure HandsOver (k : Call) (n : UInt64) (left : Baggage) (f : Frame) : Prop where
  waits : ∀ (r : Receiver τ) (es : List Event), r.Untaken q es → r.ahead es <+: f.bytes →
    r.ahead es ≠ f.bytes → (r.run q es).1.intake.ended = false →
    (r.run q es).1.step q .take = ((r.run q es).1, [])
  given : ∀ (r : Receiver τ) (es : List Event) (rest : Bytes) (t : τ), r.Untaken q es →
    r.ahead es = f.bytes ++ rest → (r.run q es).1.connection.loop = .reading →
    Enters q.stack k.kind left (r.run q es).1.connection.surroundings t →
    ((r.run q es).1.step q .take).2 =
      [.received k.kind,
        if k.expectsAnswer then .serve (r.run q es).1.connection.nextHandler n (k.delivery left)
        else .notify (k.delivery left)] ∧
    ((r.run q es).1.step q .take).1.intake.buffer = rest ∧
    ((r.run q es).1.step q .take).1.connection.surroundings = t

theorem handsOver_of_fits {k : Call} {stack : Option (Stack σ)} {n : UInt64} {left : Baggage}
    {limit : Nat} (h : k.Fits stack n left limit q.limit) :
    HandsOver q k n left (k.parcel stack n left) where
  waits r es huntaken hpart hne hopen := by
    have hnext : (r.run q es).1.intake.next? q.limit = none := by
      unfold Intake.next?
      rw [buffer_of_untaken huntaken, Frame.read_eq_incomplete h.written' hpart hne, hopen]
      rfl
    simp only [step, take, hnext]
    split <;> rfl
  given r es rest t huntaken hwhole hloop hin := by
    generalize hr : (r.run q es).1 = r' at hloop hin ⊢
    have hbuffer : r'.intake.buffer = (k.parcel stack n left).bytes ++ rest := by
      rw [← hr, buffer_of_untaken huntaken, hwhole]
    have hnext : r'.intake.next? q.limit =
        some (.frame (k.parcel stack n left), { r'.intake with buffer := rest }) := by
      unfold Intake.next?
      rw [hbuffer, Frame.read_write_append h.written']
    have hready : Loop.reading.isReady = true := rfl
    have hreact := h.react_parcel q.side hin
    have hkind : (k.parcel stack n left).kind = k.kind := rfl
    simp only [step, take, hloop, hready, if_true, hnext, Connection.step, Connection.arrive,
      Connection.accept, hreact, hkind]
    cases k.expectsAnswer <;> exact ⟨rfl, trivial, rfl⟩

end Receiver

/-- A request or event that the sender's layers let out goes onto the wire, and each receiver whose
layers let it in hands its application the method and the payload of the sender, with the baggage
that the sender's layers left. -/
theorem Connection.delivered_as_sent {p : Profile σ} {q : Profile τ} {c : Connection σ}
    (hw : KeysBelow c.writers c.nextWriter) {caller : Nat} {k : Call} {n : UInt64}
    {left : Baggage} {s' : σ} (hk : c.call? caller = some k) (hn : k.stage = .numbered n)
    (hout : Departs p.stack k.kind k.context.baggage c.surroundings left s')
    (hfits : k.Fits p.stack n left p.limit q.limit) :
    Dispatches p c caller (k.parcel p.stack n left) ∧
      Receiver.HandsOver q k n left (k.parcel p.stack n left) :=
  ⟨dispatches_of_departs hw hk hn hout hfits, Receiver.handsOver_of_fits hfits⟩

/-! ## A stamped request -/

namespace Connection

/-- Stamps what goes out, and lets in what has been stamped. -/
def stamping : Layer Unit where
  send _ b s := ⟨.ok (), b.insert "stamp" [1], s⟩
  receive _ b s := ⟨if b.contains "stamp" then .ok () else .error (.rejected "no stamp"), s⟩

def stampingClient : Profile Unit := ⟨.client, 200, some ⟨[stamping]⟩, false⟩

def checkingServer : Profile Unit := ⟨.server, 180, some ⟨[stamping, .transparent]⟩, false⟩

/-- A request with an entry of its own. -/
def paged : Call :=
  ⟨true, { baggage := Baggage.empty.insert "page" [4] }, "pages of a book", [7, 8], 0, .numbered 1,
    none⟩

def stamped : Baggage := (Baggage.empty.insert "page" [4]).insert "stamp" [1]

/-- A client is greeted and its application asks; the call has its number. -/
def asking : Connection Unit :=
  (run stampingClient (.new stampingClient ())
    [.start, .write 0, .arrive (.frame (.control (Archive.noticeBytes .greeting))),
      .call 0 true paged.context ⟨0, fun _ => false⟩ paged.method paged.payload, .advance 0]).1

theorem paged_delivered :
    Dispatches stampingClient asking 0 (paged.parcel stampingClient.stack 1 stamped) ∧
      Receiver.HandsOver checkingServer paged 1 stamped
        (paged.parcel stampingClient.stack 1 stamped) := by
  have hw : KeysBelow asking.writers asking.nextWriter := writersBelow_run () _
  have hcall : asking.call? 0 = some paged := rfl
  have hout : Departs stampingClient.stack paged.kind paged.context.baggage asking.surroundings
      stamped () := .cons rfl (.nil _ _)
  have hfits : paged.Fits stampingClient.stack 1 stamped stampingClient.limit
      checkingServer.limit := by
    constructor <;> decide +kernel
  exact delivered_as_sent hw hcall rfl hout hfits

/-- The server reads the octets in two pieces and is shown the request once. -/
example :
    let octets := (paged.parcel stampingClient.stack 1 stamped).bytes
    ((Receiver.new checkingServer ()).run checkingServer
      [.own .start, .feed (octets.take 50), .take, .feed (octets.drop 50), .take,
        .take]).2.filterMap Output.serve? = [(0, 1, ⟨"pages of a book", [7, 8], stamped⟩)] := by
  decide +kernel

end Connection

end Rpc
