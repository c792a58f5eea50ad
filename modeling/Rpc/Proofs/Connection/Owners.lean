import Mathlib.Data.List.Nodup
import Rpc.Proofs.Connection.Numbers

/-! # Whose number it is

A call keeps the number that was given out for it until it ends, and its frame is queued once. The
numbers of the calls at hand and of those that have ended are therefore counted by the numbers given
out, and so are the requests on their way. What a caller brought does not change, and the reply in
an inbox is one that was taken in under the number of its call.
-/
namespace Rpc

open Message

def Stage.number? : Stage → Option UInt64
  | .admitted => none
  | .numbered n | .writing n | .awaiting n => some n

/-- The number of a call whose frame has not been built. -/
def Stage.unframed? : Stage → Option UInt64
  | .numbered n => some n
  | _ => none

/-- What the caller brought, and what becomes of it no more. -/
def Call.brought (k : Call) : Bool × CallContext × String × Bytes :=
  (k.expectsAnswer, k.context, k.method, k.payload)

theorem Call.number?_of_stage {k : Call} {n : UInt64} (h : k.number? = some n) :
    k.stage.number? = some n := by
  unfold Call.number? at h
  split at h
  · rename_i hs
    rw [hs]
    exact h
  · rename_i hs
    rw [hs]
    exact h
  · rename_i hs
    rw [hs]
    exact h
  · cases h

namespace Connection

variable {σ : Type} {p : Profile σ} {c : Connection σ}

/-! ## Counting -/

def stagesOf (f : Stage → Option UInt64) (calls : List (Nat × Call)) : List UInt64 :=
  calls.filterMap fun x => f x.2.stage

/-- The numbers of the calls that a step ends, as far as they had come. -/
def endedNumbers (f : Stage → Option UInt64) (c : Connection σ) (ended : List (Nat × Ending)) :
    List UInt64 :=
  ended.filterMap fun x => (c.call? x.1).bind fun k => f k.stage

theorem CallsAfter.stagesOf {may : UInt64 → Reply → Prop} {calls : List (Nat × Call)}
    {after : Connection σ} (h : CallsAfter may calls after) (f : Stage → Option UInt64) :
    stagesOf f after.calls = stagesOf f calls := by
  obtain ⟨g, hg, hreceives⟩ := h
  rw [Connection.stagesOf, hg, List.filterMap_map]
  refine List.filterMap_congr fun x _ => ?_
  simp only [Function.comp, (hreceives x.2).stage]

theorem setStage_perm (hc : (c.calls.map Prod.fst).Nodup) {caller : Nat} {k : Call}
    (hk : c.call? caller = some k) (stage : Stage) :
    (c.setStage caller stage).calls.Perm
      ((caller, { k with stage }) :: c.calls.filter (·.1 ≠ caller)) := by
  have hperm := (perm_of_lookup hc hk).map fun e : Nat × Call =>
    if e.1 = caller then (e.1, { e.2 with stage }) else e
  rw [List.map_cons, if_pos rfl] at hperm
  have hrest : ((c.calls.filter (·.1 ≠ caller)).map fun e : Nat × Call =>
      if e.1 = caller then (e.1, { e.2 with stage }) else e) = c.calls.filter (·.1 ≠ caller) :=
    calc
      _ = (c.calls.filter (·.1 ≠ caller)).map id :=
        List.map_congr_left fun e he => if_neg (of_decide_eq_true (List.mem_filter.mp he).2)
      _ = _ := List.map_id _
  rw [hrest] at hperm
  exact hperm

theorem keys_setStage (caller : Nat) (stage : Stage) :
    (c.setStage caller stage).calls.map Prod.fst = c.calls.map Prod.fst := by
  rw [setStage, List.map_map]
  refine List.map_congr_left fun e _ => ?_
  simp only [Function.comp]
  split <;> rfl

theorem CallsAfter.keys {may : UInt64 → Reply → Prop} {calls : List (Nat × Call)}
    {after : Connection σ} (h : CallsAfter may calls after) :
    after.calls.map Prod.fst = calls.map Prod.fst := by
  obtain ⟨g, hg, -⟩ := h
  rw [hg, List.map_map]
  rfl

/-- No two calls come under one caller. -/
theorem callers_step {e : Event} (hc : (c.calls.map Prod.fst).Nodup) :
    ((c.step p e).1.calls.map Prod.fst).Nodup := by
  obtain ⟨calls, ended, hmoves, hcalls, -⟩ := calls_step (p := p) (c := c) e
  rw [hcalls.keys]
  have hfilter : ∀ caller, ((c.calls.filter (·.1 ≠ caller)).map Prod.fst).Nodup := fun caller =>
    hc.sublist (List.filter_sublist.map _)
  cases hmoves with
  | stay => exact hc
  | refused => exact hc
  | joined hk =>
    rename_i caller _ _ _ _ _
    rw [List.map_append, List.nodup_append]
    refine ⟨hc, by simp, ?_⟩
    intro x hx y hy he
    obtain ⟨z, hz, rfl⟩ := List.mem_map.mp hx
    exact ne_of_lookup_eq_none hk hz (he.trans (by simpa using hy))
  | numbered => rw [keys_setStage]; exact hc
  | queued => rw [keys_setStage]; exact hc
  | sent => rw [keys_setStage]; exact hc
  | ended => exact hfilter _
  | abandoned => exact hfilter _

theorem callers_run (s : σ) (es : List Event) :
    ((run p (.new p s) es).1.calls.map Prod.fst).Nodup :=
  run_preserves (c := .new p s) (I := fun c => (c.calls.map Prod.fst).Nodup)
    (fun _ _ => callers_step) List.nodup_nil es

theorem count_filter (hc : (c.calls.map Prod.fst).Nodup) {caller : Nat} {k : Call}
    (hk : c.call? caller = some k) (f : Stage → Option UInt64) (n : UInt64) :
    (stagesOf f (c.calls.filter (·.1 ≠ caller))).count n + (f k.stage).toList.count n =
      (stagesOf f c.calls).count n := by
  have hperm := ((perm_of_lookup hc hk).filterMap fun x => f x.2.stage).count_eq n
  rw [stagesOf, stagesOf, hperm, List.filterMap_cons]
  cases hf : f k.stage with
  | none => simp
  | some m => simp [List.count_cons]

theorem count_setStage (hc : (c.calls.map Prod.fst).Nodup) {caller : Nat} {k : Call}
    (hk : c.call? caller = some k) (stage : Stage) (f : Stage → Option UInt64) (n : UInt64) :
    (stagesOf f (c.setStage caller stage).calls).count n + (f k.stage).toList.count n =
      (stagesOf f c.calls).count n + (f stage).toList.count n := by
  have hfilter := count_filter hc hk f n
  have hperm := ((setStage_perm hc hk stage).filterMap fun x => f x.2.stage).count_eq n
  rw [stagesOf, hperm, List.filterMap_cons, ← hfilter]
  cases hf : f stage with
  | none => simp [stagesOf]
  | some m =>
    simp only [List.count_cons, Option.toList_some, List.count_nil, stagesOf]
    omega

theorem count_filter_le (f : Stage → Option UInt64) (caller : Nat) (n : UInt64) :
    (stagesOf f (c.calls.filter (·.1 ≠ caller))).count n ≤ (stagesOf f c.calls).count n :=
  (List.filter_sublist.filterMap _).count_le n

variable (p c) in
def ended (e : Event) : List (Nat × Ending) := (c.step p e).2.filterMap Output.ended?

variable (p c) in
/-- The calls that end in a step, under their callers and as they were before it, with their
endings. -/
def endings (e : Event) : List (Nat × Call × Ending) :=
  (c.ended p e).filterMap fun x => (c.call? x.1).map (x.1, ·, x.2)

/-- A number belongs to one call at most, which has it until it ends. -/
theorem count_numbers_step (hc : (c.calls.map Prod.fst).Nodup) (n : UInt64) (e : Event) :
    (stagesOf Stage.number? (c.step p e).1.calls).count n +
        (endedNumbers Stage.number? c (c.ended p e)).count n ≤
      (stagesOf Stage.number? c.calls).count n + ((c.draws e).map Prod.fst).count n := by
  obtain ⟨calls, ended, hmoves, hcalls, hended⟩ := calls_step (p := p) (c := c) e
  rw [hcalls.stagesOf, Connection.ended, hended]
  cases hmoves with
  | stay he => simp [endedNumbers]
  | refused hk => simp [endedNumbers, hk]
  | joined hk => simp [endedNumbers, stagesOf, Stage.number?]
  | numbered hk hs hn =>
    rename_i caller k m
    have h := count_setStage hc hk (.numbered m) Stage.number? n
    simp only [hs, Stage.number?, Option.toList_none, List.count_nil, Option.toList_some] at h
    simp only [hn, endedNumbers, List.map_cons, List.map_nil, List.filterMap_nil, List.count_nil]
    omega
  | queued hk hs hf =>
    rename_i caller k m f
    have h := count_setStage hc hk (.writing m) Stage.number? n
    simp only [hs, Stage.number?] at h
    simp only [endedNumbers, List.filterMap_nil, List.count_nil]
    omega
  | sent hw hshut hk hs hx =>
    rename_i w caller k m f
    have h := count_setStage hc hk (.awaiting m) Stage.number? n
    simp only [hs, Stage.number?] at h
    simp only [endedNumbers, List.filterMap_nil, List.count_nil]
    omega
  | ended hk he =>
    rename_i caller k ending
    have h := count_filter hc hk Stage.number? n
    have hnumber : (endedNumbers Stage.number? c [(caller, ending)]).count n =
        k.stage.number?.toList.count n := by
      rw [endedNumbers, List.filterMap_cons, hk, Option.bind_some]
      cases k.stage.number? <;> rfl
    omega
  | abandoned =>
    have h := count_filter_le (c := c) Stage.number? (by assumption) n
    simp only [endedNumbers, List.filterMap_nil, List.count_nil]
    omega

/-- A call that has its number leaves that stage in its next step. -/
theorem count_unframed_advance (hc : (c.calls.map Prod.fst).Nodup) {caller : Nat} {k : Call}
    {m : UInt64} (hk : c.call? caller = some k) (hs : k.stage = .numbered m) (n : UInt64) :
    (stagesOf Stage.unframed? (c.step p (.advance caller)).1.calls).count n + [m].count n =
      (stagesOf Stage.unframed? c.calls).count n := by
  obtain ⟨calls, ended, hmoves, hcalls, -⟩ := calls_step (p := p) (c := c) (.advance caller)
  rw [hcalls.stagesOf]
  have hself : ∀ {k' : Call}, c.call? caller = some k' → k' = k := by
    intro k' hk'
    rw [hk] at hk'
    exact (Option.some.inj hk').symm
  have hfilter := count_filter hc hk Stage.unframed? n
  simp only [hs, Stage.unframed?, Option.toList_some] at hfilter
  cases hmoves with
  | stay he =>
    rcases he caller k rfl hk with ⟨m', hs'⟩ | ⟨m', hs', -⟩
    · rw [hs] at hs'
      cases hs'
    · rw [hs] at hs'
      cases hs'
  | numbered hk' hs' hn =>
    rw [hself hk', hs] at hs'
    cases hs'
  | queued hk' hs' hf =>
    have h := count_setStage hc hk (.writing m) Stage.unframed? n
    rw [hself hk', hs] at hs'
    cases hs'
    simpa [hs, Stage.unframed?] using h
  | ended hk' he =>
    cases he <;> exact hfilter

theorem count_unframed_step (hc : (c.calls.map Prod.fst).Nodup) (n : UInt64) (e : Event) :
    (stagesOf Stage.unframed? (c.step p e).1.calls).count n ≤
      (stagesOf Stage.unframed? c.calls).count n + ((c.draws e).map Prod.fst).count n := by
  obtain ⟨calls, ended, hmoves, hcalls, -⟩ := calls_step (p := p) (c := c) e
  rw [hcalls.stagesOf]
  cases hmoves with
  | stay he => exact Nat.le_add_right _ _
  | refused hk => exact Nat.le_add_right _ _
  | joined hk => simp [stagesOf, Stage.unframed?]
  | numbered hk hs hn =>
    rename_i caller k m
    have h := count_setStage hc hk (.numbered m) Stage.unframed? n
    simp only [hs, Stage.unframed?, Option.toList_none, List.count_nil, Option.toList_some] at h
    simp only [hn, List.map_cons, List.map_nil]
    omega
  | queued hk hs hf =>
    rename_i caller k m f
    have h := count_setStage hc hk (.writing m) Stage.unframed? n
    simp only [hs, Stage.unframed?, Option.toList_none, List.count_nil] at h
    omega
  | sent hw hshut hk hs hx =>
    rename_i w caller k m f
    have h := count_setStage hc hk (.awaiting m) Stage.unframed? n
    simp only [hs, Stage.unframed?, Option.toList_none, List.count_nil] at h
    omega
  | ended hk he => exact Nat.le_add_right_of_le (count_filter_le Stage.unframed? _ n)
  | abandoned => exact Nat.le_add_right_of_le (count_filter_le Stage.unframed? _ n)

def requestsOf (writers : List (Nat × Writer)) : List UInt64 :=
  writers.filterMap (·.2.frame.asked?)

/-- Of each number at most one request is queued, and it is written at most once. -/
theorem count_requests_step (hc : (c.calls.map Prod.fst).Nodup)
    (hw : KeysBelow c.writers c.nextWriter) (n : UInt64) (e : Event) :
    (stagesOf Stage.unframed? (c.step p e).1.calls).count n +
        (requestsOf (c.step p e).1.writers).count n +
        ((c.writes e).filterMap Frame.asked?).count n ≤
      (stagesOf Stage.unframed? c.calls).count n + (requestsOf c.writers).count n +
        ((c.draws e).map Prod.fst).count n := by
  have hgone : (requestsOf (c.waitingWriters e)).count n +
      ((c.writes e).filterMap Frame.asked?).count n ≤ (requestsOf c.writers).count n := by
    have hperm := ((writers_perm hw e).filterMap Frame.asked?).count_eq n
    simp only [List.filterMap_append, List.filterMap_map, Function.comp_def,
      List.count_append] at hperm
    simp only [requestsOf]
    omega
  have hunframed := count_unframed_step (p := p) hc n e
  rcases writers_step (p := p) (c := c) e with ⟨hwriters, -⟩ | ⟨purpose, f, hf, -, hwriters, -⟩
  · rw [hwriters]
    omega
  · have hbrought : (requestsOf (c.step p e).1.writers).count n =
        (requestsOf (c.waitingWriters e)).count n + f.asked?.toList.count n := by
      rw [hwriters, hf.waitingWriters_eq, requestsOf, List.filterMap_append, List.count_append]
      cases h : f.asked? <;> simp [requestsOf, h]
    cases hf with
    | call hk hs hf =>
      rename_i caller k m
      have hadvance := count_unframed_advance (p := p) hc hk hs n
      have hasked : f.asked?.toList.count n ≤ [m].count n := by
        rw [Frame.asked?, (callFrame_kind hf).2]
        split <;> simp
      omega
    | answer hn hf =>
      rw [finalAnswer_asked? hf] at hbrought
      simp only [Option.toList_none, List.count_nil] at hbrought
      omega
    | turnDown hl hr hf =>
      rw [finalAnswer_asked? hf] at hbrought
      simp only [Option.toList_none, List.count_nil] at hbrought
      omega
    | notice he hf hp =>
      obtain ⟨code, -, rfl⟩ := noticeFrame_ok hf
      simp only [Frame.asked?, Frame.control, reduceCtorEq, if_false, Option.toList_none,
        List.count_nil] at hbrought
      omega

/-! ## What is on record -/

/-- What a call has to show for its number and its inbox: that the number was given to a call which
brought the same, and that the reply was taken in under the number. -/
structure Owns (drawn : List (UInt64 × Call)) (taken : List (Frame × Reaction)) (k : Call) :
    Prop where
  fresh : k.stage = .admitted → k.inbox = none
  number : ∀ n, k.stage.number? = some n → ∃ k₀, (n, k₀) ∈ drawn ∧ k₀.brought = k.brought
  inbox : ∀ n reply, k.stage.number? = some n → k.inbox = some reply →
    reply = closedReply ∨ ∃ f, (f, Reaction.complete n reply) ∈ taken

section Record

variable {drawn : List (UInt64 × Call)} {taken : List (Frame × Reaction)}

theorem Owns.mono {drawn' : List (UInt64 × Call)} {taken' : List (Frame × Reaction)} {k : Call}
    (h : Owns drawn taken k) : Owns (drawn ++ drawn') (taken ++ taken') k where
  fresh := h.fresh
  number n hn := by
    obtain ⟨k₀, hk, hbrought⟩ := h.number n hn
    exact ⟨k₀, List.mem_append_left _ hk, hbrought⟩
  inbox n reply hn hi := by
    rcases h.inbox n reply hn hi with hclosed | ⟨f, hf⟩
    · exact Or.inl hclosed
    · exact Or.inr ⟨f, List.mem_append_left _ hf⟩

theorem Owns.restage {k : Call} {stage : Stage} (h : Owns drawn taken k)
    (hs : stage.number? = k.stage.number?) (hnum : ∃ n, stage.number? = some n) :
    Owns drawn taken { k with stage } where
  fresh ha := by
    obtain ⟨n, hn⟩ := hnum
    change stage = .admitted at ha
    rw [ha] at hn
    cases hn
  number n hn := h.number n (hs.symm.trans hn)
  inbox n reply hn hi := h.inbox n reply (hs.symm.trans hn) hi

theorem Owns.receives {e : Event} {k k' : Call} (h : Owns drawn (taken ++ c.takes p e) k)
    {after : Connection σ} (hreceives : k.Receives (Replies p c e after) k') :
    Owns drawn (taken ++ c.takes p e) k' := by
  rcases hreceives with rfl | ⟨n, reply, hn, hi, hmay, rfl⟩
  · exact h
  · have hnumber := Call.number?_of_stage hn
    refine ⟨fun ha => ?_, h.number, fun m reply' hm hi' => ?_⟩
    · change k.stage = .admitted at ha
      rw [ha] at hnumber
      cases hnumber
    · change k.stage.number? = some m at hm
      rw [hnumber] at hm
      cases hm
      cases hi'
      cases hmay with
      | taken hf => exact Or.inr ⟨_, List.mem_append_right _ hf⟩
      | shut => exact Or.inl rfl
      | forsaken => exact Or.inl rfl

theorem mem_setStage {caller : Nat} {stage : Stage} {x : Nat × Call}
    (hx : x ∈ (c.setStage caller stage).calls) :
    x ∈ c.calls ∨ ∃ k, (caller, k) ∈ c.calls ∧ x = (caller, { k with stage }) := by
  obtain ⟨y, hy, rfl⟩ := List.mem_map.mp hx
  by_cases hc : y.1 = caller
  · rw [if_pos hc, hc]
    subst hc
    exact Or.inr ⟨y.2, hy, rfl⟩
  · rw [if_neg hc]
    exact Or.inl hy

theorem owns_step (hc : (c.calls.map Prod.fst).Nodup) (h : ∀ x ∈ c.calls, Owns drawn taken x.2)
    (e : Event) : ∀ x ∈ (c.step p e).1.calls,
      Owns (drawn ++ c.draws e) (taken ++ c.takes p e) x.2 := by
  obtain ⟨calls, ended, hmoves, ⟨g, hg, hreceives⟩, -⟩ := calls_step (p := p) (c := c) e
  suffices hbase : ∀ x ∈ calls, Owns (drawn ++ c.draws e) (taken ++ c.takes p e) x.2 by
    intro x hx
    rw [hg] at hx
    obtain ⟨y, hy, rfl⟩ := List.mem_map.mp hx
    exact (hbase y hy).receives (hreceives y.2)
  have hold : ∀ x ∈ c.calls, Owns (drawn ++ c.draws e) (taken ++ c.takes p e) x.2 :=
    fun x hx => (h x hx).mono
  have hself : ∀ {caller : Nat} {k k' : Call}, c.call? caller = some k → (caller, k') ∈ c.calls →
      k' = k := by
    intro caller k k' hk hk'
    have hlookup := lookup_of_mem hc hk'
    rw [← call?, hk] at hlookup
    exact (Option.some.inj hlookup).symm
  cases hmoves with
  | stay he => exact hold
  | refused hk => exact hold
  | joined hk =>
    intro x hx
    rcases List.mem_append.mp hx with hx | hx
    · exact hold x hx
    · rw [List.mem_singleton.mp hx]
      refine ⟨fun _ => rfl, fun n hn => ?_, fun n reply hn => ?_⟩
      · cases hn
      · cases hn
  | numbered hk hs hn =>
    intro x hx
    rcases mem_setStage hx with hx | ⟨k', hk', rfl⟩
    · exact hold x hx
    · have hown := hold _ hk'
      obtain rfl := hself hk hk'
      refine ⟨fun ha => ?_, fun m hm => ?_, fun m reply hm hi => ?_⟩
      · cases ha
      · cases hm
        refine ⟨k', ?_, rfl⟩
        rw [hn]
        simp
      · change k'.inbox = some reply at hi
        rw [hown.fresh hs] at hi
        cases hi
  | queued hk hs hf =>
    intro x hx
    rcases mem_setStage hx with hx | ⟨k', hk', rfl⟩
    · exact hold x hx
    · obtain rfl := hself hk hk'
      exact (hold _ hk').restage (by rw [hs]; rfl) ⟨_, rfl⟩
  | sent hw hshut hk hs hx' =>
    intro x hx
    rcases mem_setStage hx with hx | ⟨k', hk', rfl⟩
    · exact hold x hx
    · obtain rfl := hself hk hk'
      exact (hold _ hk').restage (by rw [hs]; rfl) ⟨_, rfl⟩
  | ended hk he => exact fun x hx => hold x (List.mem_filter.mp hx).1
  | abandoned => exact fun x hx => hold x (List.mem_filter.mp hx).1

/-- The frame of a request was built from what came with its number. -/
def RequestOf (p : Profile σ) (drawn : List (UInt64 × Call)) (f : Frame) : Prop :=
  f.kind = .request → ∃ k s, (f.conversation, k) ∈ drawn ∧
    (messageFrame p.stack f.conversation .request k.context.baggage (some k.method) k.payload
      s).1 = .ok f

theorem RequestOf.mono {drawn' : List (UInt64 × Call)} {f : Frame} (h : RequestOf p drawn f) :
    RequestOf p (drawn ++ drawn') f := by
  intro hk
  obtain ⟨k, s, hmem, hf⟩ := h hk
  exact ⟨k, s, List.mem_append_left _ hmem, hf⟩

theorem Enlists.requestOf {e : Event} {purpose : Purpose} {f : Frame}
    (h : Enlists p c e purpose f) (hcalls : ∀ x ∈ c.calls, Owns drawn taken x.2) :
    RequestOf p drawn f := by
  intro hkind
  cases h with
  | call hk hs hf =>
    rename_i caller k n
    obtain ⟨hk', hconversation⟩ := callFrame_kind hf
    obtain ⟨k₀, hmem, hbrought⟩ :=
      (hcalls _ (mem_of_lookup hk)).number n (by rw [hs]; rfl)
    rw [hkind] at hk'
    simp only [Call.brought, Prod.mk.injEq] at hbrought
    obtain ⟨-, hcontext, hmethod, hpayload⟩ := hbrought
    refine ⟨k₀, c.surroundings, ?_, ?_⟩
    · rw [hconversation]
      exact hmem
    · rw [hconversation, hcontext, hmethod, hpayload, hk']
      exact hf
  | answer hn hf =>
    have hasked := finalAnswer_asked? hf
    simp [Frame.asked?, hkind] at hasked
  | turnDown hl hr hf =>
    have hasked := finalAnswer_asked? hf
    simp [Frame.asked?, hkind] at hasked
  | notice he hf hp =>
    obtain ⟨code, -, rfl⟩ := noticeFrame_ok hf
    cases hkind

end Record

section Run

variable (s : σ)

theorem owns_run (es : List Event) : ∀ x ∈ (run p (.new p s) es).1.calls,
    Owns (trail p draws (.new p s) es) (trail p (takes p) (.new p s) es) x.2 := by
  refine run_history (c := .new p s) (I := fun es c => ∀ x ∈ c.calls,
    Owns (trail p draws (.new p s) es) (trail p (takes p) (.new p s) es) x.2)
    (fun x hx => absurd hx List.not_mem_nil) (fun front e ih => ?_) es
  rw [trail_concat, trail_concat]
  exact owns_step (callers_run s front) ih e

/-- Every request that is queued or on the wire is that of the call which has its number. -/
theorem requestOf_run (es : List Event) :
    (∀ x ∈ (run p (.new p s) es).1.writers,
      RequestOf p (trail p draws (.new p s) es) x.2.frame) ∧
    ∀ f ∈ trail p writes (.new p s) es, RequestOf p (trail p draws (.new p s) es) f := by
  refine frames_run es s (Q := fun es f => RequestOf p (trail p draws (.new p s) es) f)
    (fun front e f h => ?_) fun front e purpose f hf => ?_
  · rw [trail_concat]
    exact h.mono
  · rw [trail_concat]
    exact (hf.requestOf (owns_run s front)).mono

theorem count_numbers_run (n : UInt64) (es : List Event) :
    (stagesOf Stage.number? (run p (.new p s) es).1.calls).count n +
        (trail p (fun c e => endedNumbers Stage.number? c (c.ended p e)) (.new p s) es).count n ≤
      (drawn p s es).count n := by
  refine run_history (c := .new p s) (I := fun es c => (stagesOf Stage.number? c.calls).count n +
    (trail p (fun c e => endedNumbers Stage.number? c (c.ended p e)) (.new p s) es).count n ≤
      (drawn p s es).count n) (Nat.le_refl 0) (fun front e ih => ?_) es
  have hstep := count_numbers_step (p := p) (callers_run (p := p) s front) n e
  rw [trail_concat, drawn_concat, List.count_append, List.count_append]
  omega

/-- As many calls have ended with a number at most as the number was given out. -/
theorem count_endings_le (n : UInt64) (es : List Event) :
    ((trail p (endings p) (.new p s) es).filterMap (·.2.1.stage.number?)).count n ≤
      (drawn p s es).count n := by
  have hcount := count_numbers_run (p := p) s n es
  have hsame : trail p (fun c e => endedNumbers Stage.number? c (c.ended p e)) (.new p s) es =
      (trail p (endings p) (.new p s) es).filterMap (·.2.1.stage.number?) := by
    rw [← trail_filterMap]
    congr
    funext c e
    rw [endedNumbers, endings, List.filterMap_filterMap]
    refine List.filterMap_congr fun x _ => ?_
    cases c.call? x.1 <;> rfl
  rw [hsame] at hcount
  omega

theorem endings_nodup (es : List Event)
    (hmax : (drawn p s es).length < 9223372036854775807) :
    ((trail p (endings p) (.new p s) es).filterMap (·.2.1.stage.number?)).Nodup :=
  List.nodup_iff_count_le_one.mpr fun n => Nat.le_trans (count_endings_le s n es)
    (List.nodup_iff_count_le_one.mp (inOrder_run s es hmax).nodup n)

/-- Two calls that have a number given out once are one. -/
theorem caller_unique {es : List Event} {caller caller' : Nat} {k k' : Call} {n : UInt64}
    (honce : (drawn p s es).count n ≤ 1)
    (hk : (run p (.new p s) es).1.call? caller = some k) (hn : k.stage.number? = some n)
    (hk' : (run p (.new p s) es).1.call? caller' = some k') (hn' : k'.stage.number? = some n) :
    caller' = caller := by
  have hcount := count_numbers_run (p := p) s n es
  have hone : (stagesOf Stage.number? (run p (.new p s) es).1.calls).count n ≤ 1 := by omega
  have hfilter := filter_eq_singleton hone (mem_of_lookup hk) hn
  have hmem : (caller', k') ∈ (run p (.new p s) es).1.calls.filter
      (fun x => x.2.stage.number? = some n) :=
    List.mem_filter.mpr ⟨mem_of_lookup hk', decide_eq_true hn'⟩
  rw [hfilter] at hmem
  exact congrArg Prod.fst (List.mem_singleton.mp hmem)

theorem count_requests_run (n : UInt64) (es : List Event) :
    (stagesOf Stage.unframed? (run p (.new p s) es).1.calls).count n +
        (requestsOf (run p (.new p s) es).1.writers).count n +
        ((trail p writes (.new p s) es).filterMap Frame.asked?).count n ≤
      (drawn p s es).count n := by
  refine run_history (c := .new p s) (I := fun es c =>
    (stagesOf Stage.unframed? c.calls).count n + (requestsOf c.writers).count n +
      ((trail p writes (.new p s) es).filterMap Frame.asked?).count n ≤ (drawn p s es).count n)
    (Nat.le_refl 0) (fun front e ih => ?_) es
  have hstep := count_requests_step (p := p) (callers_run (p := p) s front)
    (writersBelow_run s front) n e
  rw [trail_concat, drawn_concat, List.filterMap_append, List.count_append, List.count_append]
  omega

end Run

end Connection

end Rpc
