import Mathlib.Data.List.Nodup
import Rpc.Proofs.Connection.Ends
import Rpc.Proofs.Connection.Handlers
import Rpc.Proofs.Connection.Owners

/-! # Answers reach their calls

A call of one end that ends with an answer was handed to exactly one handler of the other end, and
ends as that handler did. The answer came in under the number of the call; it was built from the
result of the handler that served this number; and what that handler was given is the one frame with
this number that the call became.
-/
namespace Rpc

open Message

def Ending.isAnswer : Ending → Bool
  | .answered _ | .failed (.service _ _) => true
  | _ => false

/-- How a call ends whose handler comes to a result. -/
def Ending.ofResult : Except Fault Bytes → Ending
  | .ok payload => .answered payload
  | .error fault => .failed (serviceError fault)

namespace Connection

variable {σ : Type} {p : Profile σ} {c : Connection σ}

/-- A call that ends with an answer waited for it, and takes the reply from its inbox. -/
theorem inbox_of_ended {e : Event} {caller : Nat} {ending : Ending}
    (h : (caller, ending) ∈ c.ended p e) (ha : ending.isAnswer) :
    ∃ k n reply, c.call? caller = some k ∧ k.stage = .awaiting n ∧ k.inbox = some reply ∧
      ending = .ofReply reply := by
  obtain ⟨calls, ended, hmoves, -, hended⟩ := calls_step (p := p) (c := c) e
  rw [Connection.ended, hended] at h
  cases hmoves with
  | refused hk hc =>
    rename_i cause
    cases List.mem_singleton.mp h
    cases cause with
    | service code text => exact absurd rfl (hc code text)
    | _ => cases ha
  | ended hk hends =>
    cases List.mem_singleton.mp h
    cases hends with
    | answered hs hi => exact ⟨_, _, _, hk, hs, hi, rfl⟩
    | unframed hs hc =>
      rename_i cause
      cases cause with
      | service code text => exact absurd rfl (hc code text)
      | _ => cases ha
    | _ => cases ha
  | _ => cases h

theorem mem_takes {es : List Event} {f : Frame} {r : Reaction}
    (h : (f, r) ∈ trail p (takes p) c es) : ∃ s, r = (react p.side p.stack f s).1 := by
  obtain ⟨front, e, back, -, hmem⟩ := mem_trail_iff.mp h
  exact ⟨_, (of_mem_takes hmem).2⟩

theorem count_serves_le (n : UInt64) (es : List Event) :
    ((trail p (serves p) c es).filterMap fun x => some x.2.1).count n ≤
      (((trail p (takes p) c es).map Prod.fst).filterMap Frame.asked?).count n := by
  induction es generalizing c with
  | nil => exact Nat.le_refl 0
  | cons e es ih =>
    have hrest := ih (c := (c.step p e).1)
    have hstep : ((c.serves p e).filterMap fun x => some x.2.1).count n ≤
        (((c.takes p e).map Prod.fst).filterMap Frame.asked?).count n := by
      rcases takes_cases (p := p) (c := c) e with htakes | ⟨f, -, -, htakes⟩
      · simp [serves, htakes]
      · simp only [serves, htakes, List.filterMap_cons, List.filterMap_nil, List.map_cons,
          List.map_nil]
        cases hserve : (react p.side p.stack f c.surroundings).1 with
        | serve m d =>
          obtain ⟨hk, hm, -⟩ := react_serve hserve
          simp [Reaction.serve?, Frame.asked?, hk, hm]
        | _ => simp [Reaction.serve?]
    simp only [trail, List.filterMap_append, List.map_append, List.count_append]
    omega

end Connection

namespace Pair

open Connection

variable {σ : Type} {p : PairProfile σ} {s : σ} {es : List Event}

def trailAt {α : Type} (p : PairProfile σ) (s : σ) (side : Side)
    (note : Connection σ → Rpc.Event → List α) (es : List Event) : List α :=
  trail (p.of side) note (.new (p.of side) s) ((new p s).eventsAt p side es)

theorem new_of (side : Side) : (new p s).of side = .new (p.of side) s := by cases side <;> rfl

/-- What one end takes in was put on the wire by the other. -/
theorem taken_sublist_written (s : σ) (es : List Event) (side : Side) :
    List.Sublist ((trailAt p s side (takes (p.of side)) es).map Prod.fst)
      (trailAt p s side.peer writes es) := by
  have hnone : ((new p s).inbound side).filterMap Travelling.frame? = [] := by cases side <;> rfl
  have h := takes_sublist (p := p) (new p s) side es
  rw [hnone, List.nil_append, (run_of _ _ es).2, frames_eq_trail, new_of, new_of] at h
  exact (List.sublist_append_left _ _).trans h

theorem mem_of_mem_eventsAt {side : Side} {pair : Pair σ} {e : Rpc.Event}
    (he : ∀ incoming, e ≠ .arrive incoming) (h : e ∈ pair.eventsAt p side es) :
    .own side e ∈ es := by
  induction es generalizing pair with
  | nil => cases h
  | cons e' es ih =>
    rcases List.mem_append.mp h with h | h
    · refine List.mem_cons.mpr (Or.inl ?_)
      cases e' with
      | own s e'' =>
        unfold eventAt at h
        split at h
        · cases h
        · rename_i hown
          cases hown
          split at h
          · rename_i hs
            rw [List.mem_singleton.mp h, hs]
          · cases h
        · rename_i hown
          cases hown
      | arrive s =>
        simp only [eventAt] at h
        split at h
        · split at h
          · split at h
            · exact absurd (List.mem_singleton.mp h) (he _)
            · cases h
          · cases h
        · cases h
    · exact List.mem_cons_of_mem _ (ih h)

theorem mem_results {q : Profile σ} {c : Connection σ} {fs : List Rpc.Event} {handler : Nat}
    {n : UInt64} {result : Except Fault Bytes} (h : (handler, n, result) ∈ trail q results c fs) :
    Rpc.Event.answer handler result ∈ fs := by
  obtain ⟨front, e, back, rfl, hmem⟩ := mem_trail_iff.mp h
  cases e with
  | answer handler' result' =>
    simp only [results] at hmem
    split at hmem
    · cases List.mem_singleton.mp hmem
      simp
    · cases hmem
  | _ => cases hmem

/-- A reply that is handed to a caller of one end was the result of the handler at the other end
that served its number. -/
theorem result_of_reply {side : Side} {f : Frame} {n : UInt64} {reply : Reply}
    (hstack : ∀ side, (p.of side).stack = none)
    (hfaults : ∀ side handler fault, Event.own side (.answer handler (.error fault)) ∈ es →
      ∃ b, fault.toBytes = .ok b)
    (h : (f, Reaction.complete n reply) ∈ trailAt p s side (takes (p.of side)) es) :
    ∃ handler result, (handler, n, result) ∈ trailAt p s side.peer results es ∧
      Ending.ofReply reply = .ofResult result := by
  obtain ⟨s', hreact⟩ := mem_takes h
  obtain ⟨hk, hn, b, result, -, hresult, hreply⟩ := react_complete hreact.symm
  have hwritten : f ∈ trailAt p s side.peer writes es :=
    (taken_sublist_written s es side).subset (List.mem_map.mpr ⟨_, h, rfl⟩)
  have hanswer := (answerOf_run (hstack side.peer) s _).2 f hwritten
  obtain ⟨handler, result', s'', hmem, hfinal⟩ := hanswer hk
  rw [hstack side.peer] at hfinal
  have hcarried := finalAnswer_result hfinal fun fault hfault => by
    rw [hfault] at hmem
    exact hfaults side.peer handler fault (mem_of_mem_eventsAt (by simp) (mem_results hmem))
  rw [hresult] at hcarried
  cases hcarried
  refine ⟨handler, result, hn ▸ hmem, ?_⟩
  simp only [hstack side, inspect] at hreply
  rw [hreply]
  cases result <;> rfl

theorem request_says {f : Frame} {n : UInt64} {k : Call} {s' : σ} {d : Delivery}
    (hf : (messageFrame (none : Option (Stack σ)) n .request k.context.baggage (some k.method)
      k.payload s').1 = .ok f)
    (hheading : frameHeading f = .ok ⟨d.method⟩) (hpayload : d.payload = framePayload f) :
    d.method = k.method ∧ d.payload = k.payload := by
  obtain ⟨baggage, heading, -, hh, rfl⟩ := messageFrame_ok hf
  obtain ⟨bytes, hbytes, rfl⟩ : ∃ bytes, (Heading.mk k.method).toBytes = .ok bytes ∧
      heading = some bytes := by
    simp only [packHeading] at hh
    split at hh
    · rename_i bytes hbytes
      cases hh
      exact ⟨bytes, hbytes, rfl⟩
    · cases hh
  have hread := Heading.ofBytes_toBytes hbytes
  have hcontent : frameHeading (.message n .request baggage (some bytes) k.payload) =
      Heading.ofBytes bytes := by
    cases baggage <;> rfl
  have hcontent' : framePayload (.message n .request baggage (some bytes) k.payload) =
      k.payload := by
    cases baggage <;> rfl
  rw [hcontent, hread] at hheading
  simp only [Except.ok.injEq, Heading.mk.injEq] at hheading
  exact ⟨hheading.symm, hpayload.trans hcontent'⟩

variable (p s es) in
/-- Neither end has layers, no counter of numbers comes round, and all faults can be archived. -/
structure Plain : Prop where
  stack : ∀ side, (p.of side).stack = none
  numbers : ∀ side, (trailAt p s side draws es).length < 9223372036854775807
  faults : ∀ side handler fault, Event.own side (.answer handler (.error fault)) ∈ es →
    ∃ b, fault.toBytes = .ok b

variable (p s es) in
/-- The call of one end that waited under some number became one request, this request was served by
one handler of the other end, and this handler came to one result. -/
structure Handled (side : Side) (k : Call) (n : UInt64) (handler : Nat)
    (result : Except Fault Bytes) : Prop where
  number : k.stage = .awaiting n
  request : ∃ f d s',
    (messageFrame (none : Option (Stack σ)) n .request k.context.baggage (some k.method) k.payload
      s').1 = .ok f ∧
    ((outputsAt side (run p (new p s) es).2).filterMap Output.frame?).filter
      (fun f => f.asked? = some n) = [f] ∧
    ((outputsAt side.peer (run p (new p s) es).2).filterMap Output.serve?).filter
      (fun x => x.2.1 = n) = [(handler, n, d)] ∧
    d.method = k.method ∧ d.payload = k.payload ∧ frameBaggage f = .ok d.baggage
  result : (trailAt p s side.peer results es).filter (fun x => x.1 = handler) =
    [(handler, n, result)]

section Plain

variable (h : Plain p s es) (side : Side)

include h

theorem drawn_nodup : ((trailAt p s side draws es).map Prod.fst).Nodup :=
  (inOrder_run s _ (by rw [drawn, List.length_map]; exact h.numbers side)).nodup

theorem count_written_le_one (n : UInt64) :
    ((trailAt p s side writes es).filterMap Frame.asked?).count n ≤ 1 := by
  have hcount := count_requests_run (p := p.of side) s n ((new p s).eventsAt p side es)
  have hdrawn := List.nodup_iff_count_le_one.mp (drawn_nodup h side) n
  simp only [drawn, trailAt] at hcount hdrawn ⊢
  omega

theorem count_served_le_one (n : UInt64) :
    ((trailAt p s side (serves (p.of side)) es).filterMap fun x => some x.2.1).count n ≤ 1 := by
  have hserved := count_serves_le (p := p.of side) (c := .new (p.of side) s) n
    ((new p s).eventsAt p side es)
  have htaken := ((taken_sublist_written (p := p) s es side).filterMap
    Frame.asked?).count_le n
  have hwritten := count_written_le_one h side.peer n
  simp only [trailAt] at htaken hwritten ⊢
  omega

/-- What was served under a number is the one request of the call that had the number given out. -/
theorem request_of_serve {handler : Nat} {n : UInt64} {d : Delivery}
    (hserve : (handler, n, d) ∈ trailAt p s side.peer (serves (p.of side.peer)) es) :
    ∃ f k s', (n, k) ∈ trailAt p s side draws es ∧
      (messageFrame (none : Option (Stack σ)) n .request k.context.baggage (some k.method) k.payload
        s').1 = .ok f ∧
      (trailAt p s side writes es).filter (fun f => f.asked? = some n) = [f] ∧
      d.method = k.method ∧ d.payload = k.payload ∧ frameBaggage f = .ok d.baggage := by
  obtain ⟨front, e, back, hes, hmem⟩ := mem_trail_iff.mp hserve
  obtain ⟨⟨f, r⟩, htake, hmap⟩ := List.mem_filterMap.mp hmem
  obtain ⟨⟨m, d'⟩, hr, he⟩ := Option.map_eq_some_iff.mp hmap
  simp only [Prod.mk.injEq] at he
  obtain ⟨-, rfl, rfl⟩ := he
  have hr : r = .serve m d' := by
    cases r with
    | serve m d => cases hr; rfl
    | _ => cases hr
  subst hr
  have htaken : (f, Reaction.serve m d') ∈ trailAt p s side.peer (takes (p.of side.peer)) es :=
    mem_trail_iff.mpr ⟨front, e, back, hes, htake⟩
  obtain ⟨s', hreact⟩ := mem_takes htaken
  obtain ⟨hk, hn, hheading, hpayload, hbaggage⟩ := react_serve hreact.symm
  have hwritten := (taken_sublist_written s es side.peer).subset (List.mem_map.mpr ⟨_, htaken, rfl⟩)
  rw [peer_peer] at hwritten
  obtain ⟨k, s'', hdrawn, hframe⟩ := (requestOf_run s _).2 f hwritten hk
  rw [h.stack side, ← hn] at hframe
  rw [← hn] at hdrawn
  have hasked : f.asked? = some m := by rw [Frame.asked?, if_pos hk, hn]
  obtain ⟨hmethod, hpayload'⟩ := request_says hframe hheading hpayload
  exact ⟨f, k, s'', hdrawn, hframe,
    filter_eq_singleton (count_written_le_one h side m) hwritten hasked,
    hmethod, hpayload', hbaggage⟩

/-- A call that ends with an answer ends as its own handler did. -/
theorem handled_of_ended {caller : Nat} {ending : Ending}
    (hended : Output.ended caller ending ∈ outputsAt side (run p (new p s) es).2)
    (ha : ending.isAnswer) :
    ∃ k n handler result, (caller, k, ending) ∈ trailAt p s side (endings (p.of side)) es ∧
      Handled p s es side k n handler result ∧ ending = .ofResult result := by
  rw [(run_of _ _ es).2, outputs_eq_trail, new_of] at hended
  obtain ⟨front, e, back, hes, hmem⟩ := mem_trail_iff.mp hended
  have hended' : (caller, ending) ∈ Connection.ended (p.of side)
      (Connection.run (p.of side) (.new (p.of side) s) front).1 e :=
    List.mem_filterMap.mpr ⟨_, hmem, rfl⟩
  obtain ⟨k, n, reply, hk, hs, hi, rfl⟩ := inbox_of_ended hended' ha
  have hends : (caller, k, Ending.ofReply reply) ∈ trailAt p s side (endings (p.of side)) es :=
    mem_trail_iff.mpr ⟨front, e, back, hes, List.mem_filterMap.mpr ⟨_, hended', by rw [hk]; rfl⟩⟩
  have howns := owns_run (p := p.of side) s front _ (mem_of_lookup hk)
  have hn : k.stage.number? = some n := by rw [hs]; rfl
  -- the number was given to this call, and the reply was taken in under it
  obtain ⟨k₀, hdrawn, hbrought⟩ := howns.number n hn
  obtain ⟨f, htaken⟩ : ∃ f, (f, Reaction.complete n reply) ∈
      trailAt p s side (takes (p.of side)) es := by
    rcases howns.inbox n reply hn hi with rfl | ⟨f, hf⟩
    · cases ha
    · exact ⟨f, by rw [trailAt, hes, trail_append]; exact List.mem_append_left _ hf⟩
  have hdrawn : (n, k₀) ∈ trailAt p s side draws es := by
    rw [trailAt, hes, trail_append]
    exact List.mem_append_left _ hdrawn
  -- the reply is a result of the handler that served the number
  obtain ⟨handler, result, hresult, hending⟩ := result_of_reply h.stack h.faults htaken
  obtain ⟨d, hserve⟩ := serve_of_result s _ hresult
  -- what that handler was given came from the call that has the number
  obtain ⟨f', k₁, s', hdrawn₁, hframe, honly, hmethod, hpayload, hbaggage⟩ :=
    request_of_serve h side hserve
  obtain rfl : k₀ = k₁ :=
    congrArg Prod.snd (List.inj_on_of_nodup_map (drawn_nodup h side) hdrawn hdrawn₁ rfl)
  simp only [Call.brought, Prod.mk.injEq] at hbrought
  obtain ⟨-, hcontext, hmethod₀, hpayload₀⟩ := hbrought
  refine ⟨k, n, handler, result, hends,
    ⟨hs, ⟨f', d, s', ?_, ?_, ?_, ?_, ?_, hbaggage⟩, ?_⟩, hending⟩
  · rw [← hcontext, ← hmethod₀, ← hpayload₀]
    exact hframe
  · rw [(run_of _ _ es).2, frames_eq_trail, new_of]
    exact honly
  · rw [(run_of _ _ es).2, serves_eq_trail, new_of]
    have hfilter := filter_eq_singleton (count_served_le_one h side.peer n) hserve rfl
    simp only [Option.some.injEq] at hfilter
    exact hfilter
  · exact hmethod.trans hmethod₀
  · exact hpayload.trans hpayload₀
  · have hcount := List.nodup_iff_count_le_one.mp
      (results_nodup (p := p.of side.peer) s ((new p s).eventsAt p side.peer es)) handler
    rw [← List.filterMap_eq_map] at hcount
    have hfilter := filter_eq_singleton hcount hresult rfl
    simp only [Function.comp, Option.some.injEq] at hfilter
    exact hfilter

end Plain

/-- In every run of two ends without layers, a call that ends with an answer became one request,
which one handler of the other end served, and ends as this handler did. No two calls of an end have
the number of one request, so no call ends with the answer to another. -/
theorem calls_end_as_handled (h : Plain p s es) (side : Side) :
    (∀ caller ending, Output.ended caller ending ∈ outputsAt side (run p (new p s) es).2 →
      ending.isAnswer → ∃ k n handler result,
        (caller, k, ending) ∈ trailAt p s side (endings (p.of side)) es ∧
        Handled p s es side k n handler result ∧ ending = .ofResult result) ∧
    ((trailAt p s side (endings (p.of side)) es).filterMap (·.2.1.stage.number?)).Nodup :=
  ⟨fun _ _ => handled_of_ended h side,
    endings_nodup s _ (by rw [drawn, List.length_map]; exact h.numbers side)⟩

/-- Two calls of a client under way at once, whose handlers come to their results the other way
round. -/
def crossedRun : List Event :=
  let call caller payload :=
    Event.own .client (.call caller true {} ⟨0, fun _ => false⟩ "" payload)
  [.own .client .start, .own .server .start, .own .client (.write 0), .arrive .server,
    .own .server (.write 0), .arrive .client, call 0 [1], call 1 [2], .own .client (.advance 0),
    .own .client (.advance 1), .own .client (.advance 0), .own .client (.advance 1),
    .own .client (.write 1), .own .client (.write 2), .arrive .server, .arrive .server,
    .own .server (.answer 1 (.ok [7])), .own .server (.answer 0 (.error ⟨5, "no", none⟩)),
    .own .server (.write 1), .own .server (.write 2), .arrive .client, .arrive .client,
    .own .client (.advance 1), .own .client (.advance 0)]

def plainEnds : PairProfile Unit :=
  ⟨⟨.client, 100, none, false⟩, ⟨.server, 100, none, false⟩⟩

theorem crossedRun_plain : Plain plainEnds () crossedRun where
  stack side := by cases side <;> rfl
  numbers side := by cases side <;> decide +kernel
  faults side handler fault h := by
    simp [crossedRun] at h
    obtain ⟨-, -, rfl⟩ := h
    exact ⟨_, rfl⟩

theorem crossedRun_handled :
    (∃ k n handler result,
      (0, k, .failed (.service 5 "no")) ∈
        trailAt plainEnds () .client (endings (plainEnds.of .client)) crossedRun ∧
      Handled plainEnds () crossedRun .client k n handler result ∧
      .failed (.service 5 "no") = Ending.ofResult result) ∧
    ∃ k n handler result,
      (1, k, .answered [7]) ∈
        trailAt plainEnds () .client (endings (plainEnds.of .client)) crossedRun ∧
      Handled plainEnds () crossedRun .client k n handler result ∧
      .answered [7] = Ending.ofResult result := by
  have hends := (calls_end_as_handled crossedRun_plain .client).1
  exact ⟨hends 0 _ (List.mem_of_getElem? (i := 9) rfl) rfl,
    hends 1 _ (List.mem_of_getElem? (i := 8) rfl) rfl⟩

end Pair

end Rpc
