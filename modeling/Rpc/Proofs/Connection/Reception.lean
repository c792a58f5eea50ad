import Rpc.Proofs.Connection.Pending
import Rpc.Proofs.Connection.Rest

/-! # What comes of a stream

Whatever the peer of an end that is up sends before it closes, and however it is cut into chunks,
the end comes to rest. Then it has processed the frames before the end of the story and no others.
It has given away what the layers let pass of them, has told the peer of its violation, if there
was one, and every call that waited has ended, with the first reply that came for it or without any.
-/
namespace Rpc.Receiver

open Message Connection

variable {σ : Type} {p : Profile σ} {s : σ} {past es : List Event}

variable (p s) in
def reached (past : List Event) : Receiver σ := ((new p s).run p past).1

variable (p) in
/-- The calls that end in a run, as they were before, with their callers and endings. -/
def endings (r : Receiver σ) (es : List Event) : List (Nat × Call × Ending) :=
  r.connection.trail p (Connection.endings p) (eventsOf p r es)

variable (p s past es) in
/-- An end is up after some events. In the events to come its peer closes the stream, nobody stops
it, gives up a call or fails to write, and the limit lets a notice through if one is due. -/
structure Undisturbed : Prop where
  up : (reached p s past).connection.Stands .reading ∨ (reached p s past).connection.Stands .pausing
  quiet : ∀ e ∈ es, e.isQuiet = true
  closed : ((reached p s past).run p es).1.intake.ended = true
  admits : ∀ code details, (story p.side p.limit ((reached p s past).ahead es)).finale =
    .violation code details → Admits p code details

variable (p s past es) in
/-- What was ahead of an end after some events has been received in the events to come. -/
structure Received : Prop where
  processed : ((reached p s past).met p es).map Prod.fst =
    (story p.side p.limit ((reached p s past).ahead es)).frames
  requests : (((reached p s past).run p es).2.filterMap Output.serve?).map Prod.snd =
    ((reached p s past).met p es).filterMap (Frame.request? p.stack)
  events : ((reached p s past).run p es).2.filterMap Output.notify? =
    ((reached p s past).met p es).filterMap (Frame.event? p.stack)
  complaints : (((reached p s past).run p es).2.filterMap Output.frame?).filterMap
    Frame.complaint? = (story p.side p.limit ((reached p s past).ahead es)).finale.complaint?.toList
  /-- Each call that has a number and no reply ends once, unless the counter has come round and its
  number was given out again. If its frame got out, it ends with the first reply to its number. -/
  calls : ∀ caller k n, (reached p s past).connection.call? caller = some k →
    k.number? = some n → k.inbox = none →
    (drawn p s (eventsOf p (new p s) (past ++ es))).count n ≤ 1 →
    ∃ k' ending, Output.ended caller ending ∈ ((reached p s past).run p es).2 ∧
      ((reached p s past).endings p es).filter (fun x => x.2.1.stage.number? = some n) =
        [(caller, k', ending)] ∧
      k.Later n k' ∧
      (k'.stage = .awaiting n → ending = .ofReply
        ((Frame.replyTo? p.stack n ((reached p s past).met p es)).getD closedReply)) ∧
      (k'.stage = .writing n → ending = .ofReply closedReply)
  ended : ((reached p s past).run p es).1.connection.Stands .ended

section Reached

theorem connection_reached (past : List Event) : (reached p s past).connection =
    (Connection.run p (.new p s) (eventsOf p (new p s) past)).1 := (run_eq past).1

theorem connection_run_reached (past es : List Event) :
    ((reached p s past).run p es).1.connection =
      (Connection.run p (.new p s) (eventsOf p (new p s) (past ++ es))).1 := by
  have h := run_append (p := p) (r := new p s) past es
  rw [reached, ← connection_reached (past ++ es), reached, h]

end Reached

variable {r : Receiver σ}

theorem gifts_run (r : Receiver σ) (es : List Event) :
    ((r.run p es).2.filterMap Output.serve?).map Prod.snd =
      (r.met p es).filterMap (Frame.request? p.stack) ∧
    (r.run p es).2.filterMap Output.notify? = (r.met p es).filterMap (Frame.event? p.stack) := by
  rw [(run_eq es).2, serves_eq_trail, notifies_eq_trail, met, ← trail_filterMap, ← trail_filterMap,
    ← trail_filterMap, ← trail_map]
  constructor
  · congr
    funext c e
    rw [← (takes_gives e).1, serves, List.map_filterMap]
    refine List.filterMap_congr fun x _ => ?_
    rw [Option.map_map]
    cases x.2.serve? <;> rfl
  · congr
    funext c e
    exact (takes_gives e).2.1

theorem complaints_run : ((r.run p es).2.filterMap Output.frame?).filterMap Frame.complaint? =
    r.told p es := by
  rw [(run_eq es).2, frames_eq_trail, told]

theorem ended_of_mem_endings {caller : Nat} {k : Call} {ending : Ending}
    (h : (caller, k, ending) ∈ r.endings p es) : Output.ended caller ending ∈ (r.run p es).2 := by
  obtain ⟨front, e, back, hes, hmem⟩ := mem_trail_iff.mp h
  obtain ⟨⟨caller', ending'⟩, hended, hmap⟩ := List.mem_filterMap.mp hmem
  obtain ⟨k', -, heq⟩ := Option.map_eq_some_iff.mp hmap
  simp only [Prod.mk.injEq] at heq
  rw [heq.1, heq.2.2] at hended
  obtain ⟨o, ho, hout⟩ := List.mem_filterMap.mp hended
  have ho' : o = .ended caller ending := by
    cases o with
    | ended caller' ending' =>
      cases hout
      rfl
    | _ => cases hout
  rw [(run_eq es).2, outputs_eq_trail]
  exact mem_trail_iff.mpr ⟨front, e, back, hes, ho' ▸ ho⟩

/-- A call that waits under a number ends with the reply that it is due before the end rests. -/
theorem ended_of_rests (h : Undisturbed p s past es) {mode : Mode}
    (hmode : (reached p s past).connection.Stands mode)
    (hadmits : Admitted p (reached p s past) mode es)
    (hover : ((reached p s past).run p es).1.connection.Stands .ended)
    (hrests : Rests p ((reached p s past).run p es).1) {caller : Nat} {k : Call} {n : UInt64}
    (hk : (reached p s past).connection.call? caller = some k) (hn : k.number? = some n)
    (hi : k.inbox = none)
    (honce : (drawn p s (eventsOf p (new p s) (past ++ es))).count n ≤ 1) :
    EndedWith p (reached p s past).connection (eventsOf p (reached p s past) es) caller k n
      ((Frame.replyTo? p.stack n ((reached p s past).met p es)).getD closedReply) := by
  rw [eventsOf_append] at honce
  rcases open_run (connection_reached past) honce hmode h.quiet hadmits hk hn hi with
    hended | ⟨k', hk', hlater, -⟩
  · exact hended
  · have hstate := connection_run_reached (p := p) (s := s) past es
    refine absurd hlater.number (hrests.no_call hover ?_ ?_ ?_ ?_ hk')
    · rw [hstate]
      exact tabled_run s _
    · rw [hstate]
      exact queued_run s _
    · rw [hstate]
      exact callers_run s _
    · rw [hstate]
      exact writersBelow_run s _

def plainClient : Profile Unit := ⟨.client, 200, none, false⟩

/-- A client is greeted and sends two requests. -/
def greetedRun : List Event :=
  let call caller payload :=
    Event.own (.call caller true {} ⟨0, fun _ => false⟩ "" payload)
  [.own .start, .own (.write 0), .feed (Frame.control (Archive.noticeBytes .greeting)).bytes, .take,
    call 0 [1], call 1 [2], .own (.advance 0), .own (.advance 0), .own (.write 1),
    .own (.advance 1), .own (.advance 1), .own (.write 2)]

/-- Two answers to the first request, an event, and a frame that is too short. -/
def tornStream : Bytes :=
  (Frame.message 1 .response none none [7]).bytes ++
  (Frame.message 1 .response none none [8]).bytes ++
  (Frame.message 2 .event none (some (List.replicate 8 0xff)) [5]).bytes ++ [2, 0, 0, 0, 9]

/-- The stream comes in two pieces, and the second request gets no answer. -/
def tornRun : List Event :=
  [.feed (tornStream.take 30), .take, .feed (tornStream.drop 30), .take, .take, .take,
    .own (.advance 0), .finish, .take, .own (.write 3), .own (.advance 1)]

theorem story_tornRun : (story .client 200
    ((reached plainClient () greetedRun).ahead tornRun)).finale =
      .ofFlaw (.invalidFrame (.shortBody 2)) := by
  have hahead : (reached plainClient () greetedRun).ahead tornRun = tornStream := by decide +kernel
  have hfirst : Frame.read 200 tornStream =
      .frame (.message 1 .response none none [7]) (tornStream.drop 22) := by decide +kernel
  have hsecond : Frame.read 200 (tornStream.drop 22) =
      .frame (.message 1 .response none none [8]) (tornStream.drop 44) := by decide +kernel
  have hthird : Frame.read 200 (tornStream.drop 44) =
      .frame (.message 2 .event none (some (List.replicate 8 0xff)) [5])
        (tornStream.drop 80) := by decide +kernel
  have hshort : Frame.read 200 (tornStream.drop 80) = .stuck (.invalidFrame (.shortBody 2)) := by
    decide +kernel
  rw [hahead, story_of_frame hfirst (by decide +kernel), story_of_frame hsecond (by decide +kernel),
    story_of_frame hthird (by decide +kernel), story_of_stuck hshort]

theorem tornRun_undisturbed : Undisturbed plainClient () greetedRun tornRun where
  up := Or.inl ⟨rfl, rfl, rfl, rfl⟩
  quiet := by decide +kernel
  closed := rfl
  admits code details h := by
    have hfinale := h.symm.trans story_tornRun
    cases hfinale
    exact ⟨_, _, rfl, rfl⟩

/-- The first request ends with its first answer, the second without any. -/
example : ((reached plainClient () greetedRun).run plainClient tornRun).2.filterMap Output.ended? =
    [(0, .answered [7]), (1, .failed (.transport .connectionClosed))] := rfl

end Rpc.Receiver
