import Rpc.Proofs.Archive.ReadBack
import Rpc.Proofs.Connection.Frames
import Rpc.Proofs.Connection.Outputs

/-! # Handlers and their results

A handler is put to work by one request and comes to one result. Without layers, every answer that
is queued or on the wire is built from the result of the handler that got the request of its number,
and says what the handler said.
-/
namespace Rpc

open Message

theorem finalAnswer_result {σ : Type} {n : UInt64} {result : Except Fault Bytes} {s : σ}
    {f : Frame} (h : (finalAnswer none n result s).1 = some f)
    (hfault : ∀ fault, result = .error fault → ∃ b, fault.toBytes = .ok b) :
    frameResult f = .ok result := by
  cases result with
  | ok payload =>
    cases h
    rfl
  | error fault =>
    obtain ⟨b, hb⟩ := hfault fault rfl
    simp only [finalAnswer, answerFrame, hb] at h
    obtain rfl : Frame.message n .error none none b = f := Option.some.inj h
    have hread := Fault.ofBytes_toBytes hb
    have hpayload : framePayload (.message n .error none none b) = b := rfl
    have hkind : (Frame.message n .error none none b).kind ≠ .response := by simp [Frame.message]
    rw [frameResult, if_neg hkind, hpayload, hread]

namespace Connection

variable {σ : Type} {p : Profile σ} {c : Connection σ}

variable (c) in
def results : Event → List (Nat × UInt64 × Except Fault Bytes)
  | .answer handler result =>
    match c.serving.lookup handler with
    | some n => [(handler, n, result)]
    | none => []
  | _ => []

/-- The handlers of a step: those at work before it that did not come to a result, and the new
ones. -/
theorem count_serving_step (hs : KeysBelow c.serving c.nextHandler) (e : Event)
    (x : Nat × UInt64) :
    (c.step p e).1.serving.count x + ((c.results e).map fun r => (r.1, r.2.1)).count x =
      c.serving.count x + ((c.serves p e).map fun t => (t.1, t.2.1)).count x := by
  have hnew : (c.takes p e).filterMap (fun t => t.2.serve?.map fun s => (c.nextHandler, s.1)) =
      (c.serves p e).map fun x => (x.1, x.2.1) := by
    rw [serves, List.map_filterMap]
    refine List.filterMap_congr fun t _ => ?_
    cases t.2.serve? <;> rfl
  have hbusy : (c.busyHandlers e).count x + ((c.results e).map fun r => (r.1, r.2.1)).count x =
      c.serving.count x := by
    cases e with
    | answer handler result =>
      cases h : c.serving.lookup handler with
      | none => simp only [busyHandlers, results, h, filter_ne_eq_self h, List.map_nil,
          List.count_nil, Nat.add_zero]
      | some n =>
        simp only [busyHandlers, results, h, List.map_cons, List.map_nil]
        rw [(perm_of_lookup hs.nodup h).count_eq x, List.count_cons, List.count_cons,
          List.count_nil, Nat.zero_add]
    | _ => simp [busyHandlers, results]
  rw [(handlers_step e).1, hnew, List.count_append]
  omega

section Run

variable (s : σ) (es : List Event)

/-- The handlers at work and those that have come to a result are those that were put to work. -/
theorem serving_run : ((run p (.new p s) es).1.serving ++
      (trail p results (.new p s) es).map fun r => (r.1, r.2.1)).Perm
    ((trail p (serves p) (.new p s) es).map fun x => (x.1, x.2.1)) := by
  rw [List.perm_iff_count]
  intro x
  refine run_history (c := .new p s) (I := fun es c => (c.serving ++
      (trail p results (.new p s) es).map fun r => (r.1, r.2.1)).count x =
    ((trail p (serves p) (.new p s) es).map fun x => (x.1, x.2.1)).count x) rfl
    (fun front e ih => ?_) es
  have hstep := count_serving_step (p := p) (handlersBelow_run (p := p) s front) e x
  rw [List.count_append] at ih
  rw [trail_concat, trail_concat, List.map_append, List.map_append, List.count_append,
    List.count_append, List.count_append]
  omega

theorem serves_run :
    KeysBelow (trail p (serves p) (.new p s) es) (run p (.new p s) es).1.nextHandler := by
  refine run_history (c := .new p s) (I := fun es c =>
    KeysBelow (trail p (serves p) (.new p s) es) c.nextHandler) (.nil _) (fun front e ih => ?_) es
  have hnext := (handlers_step (p := p) (c := (run p (.new p s) front).1) e).2
  rw [trail_concat]
  rcases takes_cases (p := p) (c := (run p (.new p s) front).1) e with htakes | ⟨f, -, -, htakes⟩
  · rw [htakes] at hnext
    rw [serves, htakes, List.filterMap_nil, List.append_nil, hnext]
    exact ih
  · generalize (react p.side p.stack f (run p (.new p s) front).1.surroundings).1 = r at htakes
    rw [htakes] at hnext
    rw [serves, htakes, hnext]
    cases hserve : r.serve? with
    | none => simpa [hserve] using ih
    | some request => simpa [hserve] using ih.concat request

theorem results_nodup : ((trail p results (.new p s) es).map Prod.fst).Nodup := by
  have hperm := (serving_run (p := p) s es).map Prod.fst
  have hnodup := (serves_run (p := p) s es).nodup
  simp only [List.map_append, List.map_map] at hperm
  have hall := hperm.symm.nodup hnodup
  exact (List.nodup_append.mp hall).2.1

theorem serve_of_result {handler : Nat} {n : UInt64} {result : Except Fault Bytes}
    (h : (handler, n, result) ∈ trail p results (.new p s) es) :
    ∃ d, (handler, n, d) ∈ trail p (serves p) (.new p s) es := by
  have hmem : (handler, n) ∈ (trail p (serves p) (.new p s) es).map fun x => (x.1, x.2.1) := by
    refine (serving_run (p := p) s es).mem_iff.mp (List.mem_append_right _ ?_)
    exact List.mem_map.mpr ⟨_, h, rfl⟩
  obtain ⟨⟨_, _, d⟩, hx, he⟩ := List.mem_map.mp hmem
  cases he
  exact ⟨d, hx⟩

end Run

/-! ## Answers without layers -/

/-- An answer that was built from one of some results. -/
def AnswerOf (p : Profile σ) (results : List (Nat × UInt64 × Except Fault Bytes)) (f : Frame) :
    Prop :=
  f.kind.isAnswer = true → ∃ (handler : Nat) (result : Except Fault Bytes) (s : σ),
    (handler, f.conversation, result) ∈ results ∧
      (finalAnswer p.stack f.conversation result s).1 = some f

theorem AnswerOf.mono {results results' : List (Nat × UInt64 × Except Fault Bytes)} {f : Frame}
    (h : AnswerOf p results f) : AnswerOf p (results ++ results') f := by
  intro hk
  obtain ⟨handler, result, s, hmem, hf⟩ := h hk
  exact ⟨handler, result, s, List.mem_append_left _ hmem, hf⟩

theorem Enlists.answerOf {e : Event} {purpose : Purpose} {f : Frame}
    (h : Enlists p c e purpose f) (hstack : p.stack = none) :
    AnswerOf p (c.results e) f := by
  intro hk
  cases h with
  | call hk' hn hf =>
    rw [(callFrame_kind hf).1, Call.kind] at hk
    split at hk <;> cases hk
  | answer hn hf =>
    rename_i handler result n
    have hconversation := (finalAnswer_isAnswer hf).2
    refine ⟨handler, result, c.surroundings, ?_, ?_⟩
    · simp [results, hn, hconversation]
    · rw [hconversation]
      exact hf
  | turnDown hl hr hf =>
    rw [hstack] at hr
    exact absurd (congrArg Prod.fst hr) react_ne_turnDown
  | notice he hf hp =>
    obtain ⟨code, -, rfl⟩ := noticeFrame_ok hf
    cases hk

/-- Without layers, every answer that is queued or on the wire is that of a handler. -/
theorem answerOf_run (hstack : p.stack = none) (s : σ) (es : List Event) :
    (∀ x ∈ (run p (.new p s) es).1.writers,
      AnswerOf p (trail p results (.new p s) es) x.2.frame) ∧
    ∀ f ∈ trail p writes (.new p s) es, AnswerOf p (trail p results (.new p s) es) f := by
  refine frames_run es s (Q := fun es f => AnswerOf p (trail p results (.new p s) es) f)
    (fun front e f h => ?_) fun front e purpose f hf hk => ?_
  · rw [trail_concat]
    exact h.mono
  · obtain ⟨handler, result, s', hmem, hanswer⟩ := hf.answerOf hstack hk
    rw [trail_concat]
    exact ⟨handler, result, s', List.mem_append_right _ hmem, hanswer⟩

end Connection

end Rpc
