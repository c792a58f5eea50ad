import Rpc.Proofs.Archive.Loads
import Rpc.Proofs.Connection.Stream
import Rpc.Proofs.Frame.ReadBack

/-! # What a peer can load onto an end

Baggage comes in only as a part of a frame, and an end takes in only frames that its limit lets
through. Since no baggage is larger than its archive, the limit bounds all entries that ever reach
the layers of an end, its handlers and its application, whatever octets the peer sends.
-/
namespace Rpc

open Message

namespace Frame

variable {f : Frame} {b : Baggage}

theorem load_le_bodySize (h : frameBaggage f = .ok b) : b.load ≤ f.bodySize := by
  unfold frameBaggage at h
  cases hcontent : f.content? .baggage with
  | none =>
    rw [hcontent] at h
    cases h
    exact Nat.zero_le _
  | some bytes =>
    rw [hcontent] at h
    obtain ⟨part, hfound, rfl⟩ := Option.map_eq_some_iff.mp hcontent
    have hpart := partSize_le_bodySize (List.mem_of_find?_eq_some hfound)
    have hload := Baggage.load_le_of_ofBytes h
    omega

variable {σ : Type} {side : Side} {stack : Option (Stack σ)} {s : σ} {n : UInt64} {d : Delivery}

theorem baggage_of_delivery (h : f.delivery? stack s = some d) :
    frameBaggage f = .ok d.baggage := by
  unfold delivery? at h
  split at h
  · rename_i hbaggage _
    split at h
    · cases h
      exact hbaggage
    · cases h
  · cases h

theorem baggage_of_serve (h : (react side stack f s).1.serve? = some (n, d)) :
    frameBaggage f = .ok d.baggage := by
  rw [(react_gives side stack f s).1, request?] at h
  split at h
  · obtain ⟨d', hdelivery, hpair⟩ := Option.map_eq_some_iff.mp h
    cases hpair
    exact baggage_of_delivery hdelivery
  · cases h

theorem baggage_of_notify (h : (react side stack f s).1.notify? = some d) :
    frameBaggage f = .ok d.baggage := by
  rw [(react_gives side stack f s).2.1, event?] at h
  split at h
  · exact baggage_of_delivery h
  · cases h

end Frame

/-- The message that is handed to a handler or to the application. -/
def Output.delivery? : Output → Option Delivery
  | .serve _ _ d | .notify d => some d
  | _ => none

namespace Connection

variable {σ : Type} {p : Profile σ} {c : Connection σ} {e : Event} {o : Output} {d : Delivery}

/-- A message is handed over when its frame is taken in, with the baggage of the frame. -/
theorem baggage_of_output (ho : o ∈ (c.step p e).2) (hd : o.delivery? = some d) :
    ∃ f, e = .arrive (.frame f) ∧ frameBaggage f = .ok d.baggage := by
  obtain ⟨-, hserves, hnotifies⟩ := step_outputs (p := p) (c := c) e
  cases o with
  | serve handler n d' =>
    cases hd
    have hmem : (handler, n, d) ∈ (c.step p e).2.filterMap Output.serve? :=
      List.mem_filterMap.mpr ⟨_, ho, rfl⟩
    rw [hserves] at hmem
    obtain ⟨⟨f, r⟩, htakes, hr⟩ := List.mem_filterMap.mp hmem
    obtain ⟨rfl, rfl⟩ := of_mem_takes htakes
    obtain ⟨⟨m, d'⟩, hserve, hsame⟩ := Option.map_eq_some_iff.mp hr
    cases hsame
    exact ⟨f, rfl, Frame.baggage_of_serve hserve⟩
  | notify d' =>
    cases hd
    have hmem : d ∈ (c.step p e).2.filterMap Output.notify? :=
      List.mem_filterMap.mpr ⟨_, ho, rfl⟩
    rw [hnotifies] at hmem
    obtain ⟨⟨f, r⟩, htakes, hr⟩ := List.mem_filterMap.mp hmem
    obtain ⟨rfl, rfl⟩ := of_mem_takes htakes
    exact ⟨f, rfl, Frame.baggage_of_notify hr⟩
  | _ => cases hd

end Connection

namespace Receiver

open Archive Connection

variable {σ : Type} {p : Profile σ} {r : Receiver σ} {e : Event} {es : List Event} {f : Frame}

/-- A frame that comes to the connection has been read from the octets that have arrived. -/
theorem read_of_mem_eventAt (h : .arrive (.frame f) ∈ r.eventAt p e) :
    ∃ rest, Frame.read p.limit r.intake.buffer = .frame f rest := by
  cases e with
  | feed chunk => cases h
  | finish => cases h
  | own e =>
    cases e with
    | arrive incoming => cases h
    | _ => cases List.mem_singleton.mp h
  | take =>
    rcases take_cases (p := p) (r := r) with ⟨hevent, -⟩ | ⟨piece, rest, htakes⟩
    · rw [hevent] at h
      cases h
    · rw [htakes.event] at h
      cases List.mem_singleton.mp h
      have hnext := htakes.next
      unfold Intake.next? at hnext
      split at hnext
      · rename_i left hread
        cases hnext
        exact ⟨left, hread⟩
      · cases hnext
      · cases hnext
      · split at hnext
        · cases hnext
        · split at hnext <;> cases hnext

theorem read_of_mem_eventsOf (h : .arrive (.frame f) ∈ eventsOf p r es) :
    ∃ b rest, Frame.read p.limit b = .frame f rest := by
  induction es generalizing r with
  | nil => cases h
  | cons e es ih =>
    rcases List.mem_append.mp h with hnow | hlater
    · exact ⟨_, read_of_mem_eventAt hnow⟩
    · exact ih hlater

theorem bodySize_le_of_mem_eventsOf (h : .arrive (.frame f) ∈ eventsOf p r es) :
    f.bodySize ≤ p.limit := by
  obtain ⟨b, rest, hread⟩ := read_of_mem_eventsOf h
  exact Frame.bodySize_le_of_read hread

variable (p r es) in
/-- The frame limit bounds the baggage that a run takes in, and what it hands over of that. -/
structure Spared : Prop where
  taken : ∀ f b, .arrive (.frame f) ∈ eventsOf p r es → frameBaggage f = .ok b → b.load ≤ p.limit
  handed : ∀ o ∈ (r.run p es).2, ∀ d, o.delivery? = some d → d.baggage.load ≤ p.limit

theorem spared_run (p : Profile σ) (r : Receiver σ) (es : List Event) : Spared p r es := by
  have htaken : ∀ f b, .arrive (.frame f) ∈ eventsOf p r es → frameBaggage f = .ok b →
      b.load ≤ p.limit := fun f b hf hb =>
    Nat.le_trans (Frame.load_le_bodySize hb) (bodySize_le_of_mem_eventsOf hf)
  refine ⟨htaken, fun o ho d hd => ?_⟩
  rw [(run_eq es).2, outputs_eq_trail] at ho
  obtain ⟨front, e, back, hes, hout⟩ := mem_trail_iff.mp ho
  obtain ⟨f, rfl, hbaggage⟩ := baggage_of_output hout hd
  exact htaken f _ (hes ▸ List.mem_append_right front List.mem_cons_self) hbaggage

/-- Reading the baggage of an archive comes to an end, and what it comes to is no larger than the
archive. No reader of nodes is asked for nodes that are nested deeper than one inner node after the
other fits into the archive, so it does not matter what it would make of them; and the octets of all
keys and values, with the eight of the value itself, are found in the archive. So in no run of an
end does baggage from its peer exceed the frame limit. -/
theorem cargo_within_limit :
    (∀ (b : Bytes) (nested : NodeReader),
      readBaggageBy b ((readNodeBy b)^[b.length / 108 + 1] nested) = Baggage.ofBytes b) ∧
    (∀ (bytes : Bytes) (b : Baggage), Baggage.ofBytes bytes = .ok b → b.load + 8 ≤ bytes.length) ∧
    ∀ (σ : Type) (p : Profile σ) (r : Receiver σ) (es : List Event), Spared p r es :=
  ⟨readBaggageBy_iterate, fun _ _ => Baggage.load_le_of_ofBytes, fun _ => spared_run⟩

/-- A request whose archive lists one key twice. -/
def shuffledRequest : Frame :=
  .message 1 .request (some shuffledArchive) (some (headingBytes ⟨"sort"⟩)) [7]

def smallServer : Profile Unit := ⟨.server, 150, none, false⟩

def shuffledRun : List Event := [.own .start, .feed shuffledRequest.bytes, .take]

theorem shuffledRequest_within_limit :
    Baggage.ofBytes shuffledArchive = .ok (.ofList [("a", [2]), ("b", [3])]) ∧
    (Baggage.ofList [("a", [2]), ("b", [3])]).load + 8 ≤ shuffledArchive.length ∧
    ((new smallServer ()).run smallServer shuffledRun).2.filterMap Output.delivery? =
      [⟨"sort", [7], .ofList [("a", [2]), ("b", [3])]⟩] ∧
    Spared smallServer (new smallServer ()) shuffledRun := by
  have hread : Baggage.ofBytes shuffledArchive = .ok (.ofList [("a", [2]), ("b", [3])]) := by
    decide +kernel
  obtain ⟨-, hload, hspared⟩ := cargo_within_limit
  exact ⟨hread, hload _ _ hread, by decide +kernel, hspared Unit _ _ _⟩

end Receiver

end Rpc
