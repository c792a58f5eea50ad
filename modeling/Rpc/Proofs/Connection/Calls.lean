import Rpc.Proofs.Connection.Frames
import Rpc.Proofs.Connection.Outputs

/-! # The life of a call

A call joins after the checks at the door, gets its number, waits for the stream and then for its
answer, and leaves with an ending or without one. Replies only reach the inboxes of calls that have
a number. Each step moves one call at most, and this is said here once for all steps.
-/
namespace Rpc

open Message

def Ending.ofReply : Reply → Ending
  | .ok payload => .answered payload
  | .error e => .failed e

def Output.ended? : Output → Option (Nat × Ending)
  | .ended caller ending => some (caller, ending)
  | _ => none

/-- A call has received a reply that may reach it, or nothing. -/
def Call.Receives (may : UInt64 → Reply → Prop) (k k' : Call) : Prop :=
  k' = k ∨ ∃ n reply, k.number? = some n ∧ k.inbox = none ∧ may n reply ∧
    k' = { k with inbox := some reply }

theorem Call.Receives.trans {may : UInt64 → Reply → Prop} {k k' k'' : Call}
    (h : k.Receives may k') (h' : k'.Receives may k'') : k.Receives may k'' := by
  rcases h with rfl | ⟨n, reply, hn, hi, hmay, rfl⟩
  · exact h'
  · rcases h' with rfl | ⟨m, other, -, hi', -, -⟩
    · exact Or.inr ⟨n, reply, hn, hi, hmay, rfl⟩
    · cases hi'

theorem Call.Receives.stage {may : UInt64 → Reply → Prop} {k k' : Call} (h : k.Receives may k') :
    k'.stage = k.stage := by
  rcases h with rfl | ⟨n, reply, -, -, -, rfl⟩ <;> rfl

theorem Call.Receives.number? {may : UInt64 → Reply → Prop} {k k' : Call} (h : k.Receives may k') :
    k'.number? = k.number? := by
  rcases h with rfl | ⟨n, reply, -, -, -, rfl⟩ <;> rfl

theorem Call.receives_receive {may : UInt64 → Reply → Prop} {under : UInt64 → Bool} {reply : Reply}
    (h : ∀ n, under n → may n reply) (k : Call) : k.Receives may (k.receive under reply) := by
  unfold Call.receive
  split
  · rename_i n hn hi
    split
    · rename_i hunder
      exact Or.inr ⟨n, reply, hn, hi, h n hunder, rfl⟩
    · exact Or.inl rfl
  · exact Or.inl rfl

namespace Connection

variable {σ : Type} {p : Profile σ} {c : Connection σ}

/-- What a call gets that nobody answers any more. -/
abbrev closedReply : Reply := .error (.transport .connectionClosed)

/-- The calls of a state are those of a list, some of which have received a reply. -/
def CallsAfter (may : UInt64 → Reply → Prop) (calls : List (Nat × Call)) (after : Connection σ) :
    Prop :=
  ∃ g : Call → Call, after.calls = calls.map (fun x => (x.1, g x.2)) ∧
    ∀ k : Call, k.Receives may (g k)

theorem callsAfter_refl {may : UInt64 → Reply → Prop} {calls : List (Nat × Call)}
    {after : Connection σ} (h : after.calls = calls) : CallsAfter may calls after :=
  ⟨id, by rw [h]; exact (List.map_id _).symm, fun _ => Or.inl rfl⟩

theorem callsAfter_deliver {may : UInt64 → Reply → Prop} {under : UInt64 → Bool} {reply : Reply}
    {after : Connection σ} (h : ∀ n, under n → may n reply)
    (hafter : after.calls = (c.deliver under reply).calls) : CallsAfter may c.calls after :=
  ⟨Call.receive under reply, hafter, Call.receives_receive h⟩

/-- Once the stream is shut, every call may be told so. -/
def Closed (after : Connection σ) (_ : UInt64) (reply : Reply) : Prop :=
  reply = closedReply ∧ after.shut = true

/-- A call that is forgotten may leave another one under its number without its answer. -/
def Forsaken (c : Connection σ) (caller : Nat) (n : UInt64) (reply : Reply) : Prop :=
  reply = closedReply ∧ ∃ k, c.call? caller = some k ∧ k.number? = some n

theorem callsAfter_resolve {may : UInt64 → Reply → Prop} {n : UInt64} {reply : Reply}
    (h : may n reply) : CallsAfter may c.calls (c.resolve n reply) := by
  by_cases hn : n ∈ c.table.waiting
  · rw [resolve_of_mem c reply n hn]
    refine ⟨Call.receive (· = n) reply, rfl, Call.receives_receive fun m hm => ?_⟩
    rw [of_decide_eq_true hm]
    exact h
  · rw [resolve_of_not_mem c reply n hn]
    exact callsAfter_refl rfl

theorem callsAfter_teardown : CallsAfter (Closed c.teardown.1) c.calls c.teardown.1 := by
  unfold teardown
  split
  · exact callsAfter_refl rfl
  · exact callsAfter_deliver (fun _ _ => ⟨rfl, rfl⟩) rfl

theorem callsAfter_forget (caller : Nat) :
    CallsAfter (Forsaken c caller) (c.calls.filter (·.1 ≠ caller)) (c.forget caller) := by
  unfold forget
  simp only
  split
  · rename_i n hn
    exact callsAfter_resolve (c := { c with calls := c.calls.filter (·.1 ≠ caller) })
      ⟨rfl, Option.bind_eq_some_iff.mp hn⟩
  · exact callsAfter_refl rfl

theorem CallsAfter.trans {may : UInt64 → Reply → Prop} {calls : List (Nat × Call)}
    {mid after : Connection σ} (h : CallsAfter may calls mid)
    (h' : CallsAfter may mid.calls after) : CallsAfter may calls after := by
  obtain ⟨g, hg, hreceives⟩ := h
  obtain ⟨g', hg', hreceives'⟩ := h'
  refine ⟨g' ∘ g, ?_, fun k => (hreceives k).trans (hreceives' (g k))⟩
  rw [hg', hg, List.map_map]
  rfl

theorem CallsAfter.mono {may may' : UInt64 → Reply → Prop} {calls : List (Nat × Call)}
    {after : Connection σ} (h : CallsAfter may calls after)
    (himp : ∀ n reply, may n reply → may' n reply) : CallsAfter may' calls after := by
  obtain ⟨g, hg, hreceives⟩ := h
  refine ⟨g, hg, fun k => ?_⟩
  rcases hreceives k with h | ⟨n, reply, hn, hi, hmay, hk⟩
  · exact Or.inl h
  · exact Or.inr ⟨n, reply, hn, hi, himp n reply hmay, hk⟩

/-- A progress that moves no call and tells no caller of an ending. -/
def Undisturbing (may : UInt64 → Reply → Prop) (c : Connection σ) (q : Progress σ) : Prop :=
  CallsAfter may c.calls q.1 ∧ q.2.filterMap Output.ended? = []

theorem undisturbing_refl {may : UInt64 → Reply → Prop} {q : Progress σ} (h : q.1.calls = c.calls)
    (ho : q.2.filterMap Output.ended? = []) : Undisturbing may c q := ⟨callsAfter_refl h, ho⟩

/-- A progress that moves no call, unless the stream is shut. -/
abbrev Closing (c : Connection σ) (q : Progress σ) : Prop := Undisturbing (Closed q.1) c q

theorem teardown_closing : Closing c c.teardown := by
  refine ⟨callsAfter_teardown, ?_⟩
  unfold teardown
  split <;> rfl

theorem leave_closing : Closing c c.leave := teardown_closing (c := { c with loop := .over })

theorem failHandshake_closing (e : TransportError) : Closing c (c.failHandshake e) := by
  obtain ⟨hcalls, ho⟩ := leave_closing (c := c)
  refine ⟨hcalls, ?_⟩
  simp only [failHandshake, List.cons_append, List.filterMap_cons, List.filterMap_append,
    Output.ended?, ho, List.filterMap_nil, List.append_nil]

theorem enqueue_calls {purpose : Purpose} {f : Frame} {c' : Connection σ}
    (h : c.enqueue p purpose f = .ok c') : c'.calls = c.calls := by
  obtain ⟨-, rfl⟩ := enqueue_ok h
  rfl

theorem say_undisturbing {may : UInt64 → Reply → Prop} {purpose : Purpose}
    {f : Except CodecError Frame} {otherwise : Connection σ → Progress σ}
    (h : Undisturbing may c (otherwise c)) :
    Undisturbing may c (c.say p purpose f otherwise) := by
  unfold say
  split
  · exact h
  · split
    · exact h
    · rename_i hq
      have hcalls := enqueue_calls hq
      exact undisturbing_refl hcalls rfl

theorem say_closing {purpose : Purpose} {f : Except CodecError Frame} :
    Closing c (c.say p purpose f leave) := by
  unfold say
  split
  · exact leave_closing
  · split
    · exact leave_closing
    · rename_i hq
      have hcalls := enqueue_calls hq
      exact undisturbing_refl hcalls rfl

theorem violate_closing (code : UInt32) (details : String) :
    Closing c (c.violate p code details) := by
  have h : Closing c (c.say p .violation (noticeFrame (.violation code details)) leave) :=
    say_closing
  exact ⟨h.1, h.2⟩

/-- A reaction only hands out the reply that it carries, or closes the connection. -/
theorem follow_undisturbing (r : Reaction) :
    Undisturbing (fun n reply => Closed (c.follow p r).1 n reply ∨ r = .complete n reply) c
      (c.follow p r) := by
  have hclosed : Closing c (c.follow p r) →
      Undisturbing (fun n reply => Closed (c.follow p r).1 n reply ∨ r = .complete n reply) c
        (c.follow p r) := fun h => ⟨h.1.mono fun _ _ => Or.inl, h.2⟩
  cases r with
  | readOn => exact undisturbing_refl rfl rfl
  | greetBack => exact hclosed say_closing
  | violation code details => exact hclosed (violate_closing code details)
  | leave => exact hclosed leave_closing
  | serve n d => exact undisturbing_refl rfl rfl
  | notify d => exact undisturbing_refl rfl rfl
  | turnDown n fault =>
    simp only [follow]
    split
    · exact say_undisturbing (c := { c with surroundings := _ }) (undisturbing_refl rfl rfl)
    · exact undisturbing_refl rfl rfl
  | complete n reply => exact ⟨callsAfter_resolve (Or.inr rfl), rfl⟩

variable (c) in
/-- The number that an event gives to a call, with the call. -/
def draws : Event → List (UInt64 × Call)
  | .advance caller =>
    match c.call? caller with
    | some k =>
      if k.stage = .admitted then
        if k.expectsAnswer then if c.table.closed then [] else [(c.table.enter.1, k)]
        else [(c.table.allocate.1, k)]
      else []
    | none => []
  | _ => []

variable (p c) in
/-- The replies that may reach a call in a step, and why. -/
inductive Replies (e : Event) (after : Connection σ) (n : UInt64) : Reply → Prop
  | taken {f : Frame} {reply : Reply} (h : (f, Reaction.complete n reply) ∈ c.takes p e) :
      Replies e after n reply
  | shut (h : after.shut = true) : Replies e after n closedReply
  /-- Another call that had the number is gone. -/
  | forsaken {caller : Nat} {k : Call} (hk : c.call? caller = some k) (hn : k.number? = some n)
      (hgone : after.call? caller = none) : Replies e after n closedReply

variable (c) in
/-- How and when a call ends. -/
inductive Ends : Event → Nat → Call → Ending → Prop
  | answered {caller : Nat} {k : Call} {n : UInt64} {reply : Reply} (hs : k.stage = .awaiting n)
      (hi : k.inbox = some reply) : Ends (.advance caller) caller k (.ofReply reply)
  | unnumbered {caller : Nat} {k : Call} (hs : k.stage = .admitted) :
      Ends (.advance caller) caller k (.failed (.transport .connectionClosed))
  | unframed {caller : Nat} {k : Call} {n : UInt64} {cause : CallError} (hs : k.stage = .numbered n)
      (hc : ∀ code text, cause ≠ .service code text) :
      Ends (.advance caller) caller k (.failed cause)
  | expired {caller : Nat} {k : Call} {n : UInt64} (hs : k.stage = .awaiting n) :
      Ends (.expire caller) caller k (.failed (.timeout (waited k)))
  | cancelled {caller : Nat} {k : Call} {n : UInt64} (hs : k.stage = .awaiting n) :
      Ends (.cancel caller) caller k (.failed .cancelled)
  | sent {w caller : Nat} {k : Call} {n : UInt64} (hs : k.stage = .writing n)
      (hx : k.expectsAnswer = false) : Ends (.write w) caller k .sent
  | shutOut {w caller : Nat} {k : Call} {n : UInt64} (hs : k.stage = .writing n)
      (hshut : c.shut = true) : Ends (.write w) caller k (.failed (.transport .connectionClosed))
  | unwritten {w caller : Nat} {fault : IoFault} {k : Call} {n : UInt64} {cause : TransportError}
      (hs : k.stage = .writing n) : Ends (.failWrite w fault) caller k (.failed (.transport cause))

variable (c) in
/-- If a call goes on in an event, it waits for the stream or for its answer. -/
def Waits (e : Event) : Prop := ∀ caller k, e = .advance caller → c.call? caller = some k →
  (∃ n, k.stage = .writing n) ∨ ∃ n, k.stage = .awaiting n ∧ k.inbox = none

theorem waits_of_ne {e : Event} (he : ∀ caller, e ≠ .advance caller) : Waits c e :=
  fun caller _ h => absurd h (he caller)

variable (p c) in
/-- The calls that an event leads to, and the endings that it tells of. -/
inductive Moves : Event → List (Nat × Call) → List (Nat × Ending) → Prop
  | stay {e : Event} (he : Waits c e) : Moves e c.calls []
  | refused {caller : Nat} {expects : Bool} {context : CallContext} {moment : Moment}
      {method : String} {payload : Bytes} {cause : CallError} (hk : c.call? caller = none)
      (hc : ∀ code text, cause ≠ .service code text) :
      Moves (.call caller expects context moment method payload) c.calls
        [(caller, .failed cause)]
  | joined {caller : Nat} {expects : Bool} {context : CallContext} {moment : Moment}
      {method : String} {payload : Bytes} (hk : c.call? caller = none) :
      Moves (.call caller expects context moment method payload)
        (c.calls ++
          [(caller, ⟨expects, context, method, payload, moment.now, .admitted, none⟩)]) []
  | numbered {caller : Nat} {k : Call} {n : UInt64} (hk : c.call? caller = some k)
      (hs : k.stage = .admitted) (hn : c.draws (.advance caller) = [(n, k)]) :
      Moves (.advance caller) (c.setStage caller (.numbered n)).calls []
  | queued {caller : Nat} {k : Call} {n : UInt64} {f : Frame} (hk : c.call? caller = some k)
      (hs : k.stage = .numbered n)
      (hf : (messageFrame p.stack n k.kind k.context.baggage (some k.method) k.payload
        c.surroundings).1 = .ok f) :
      Moves (.advance caller) (c.setStage caller (.writing n)).calls []
  | sent {w caller : Nat} {k : Call} {n : UInt64} {f : Frame}
      (hw : c.writers.lookup w = some ⟨.call caller n, f⟩) (hshut : c.shut = false)
      (hk : c.call? caller = some k) (hs : k.stage = .writing n) (hx : k.expectsAnswer = true) :
      Moves (.write w) (c.setStage caller (.awaiting n)).calls []
  | ended {e : Event} {caller : Nat} {k : Call} {ending : Ending} (hk : c.call? caller = some k)
      (he : Ends c e caller k ending) :
      Moves e (c.calls.filter (·.1 ≠ caller)) [(caller, ending)]
  | abandoned {caller : Nat} : Moves (.abandon caller) (c.calls.filter (·.1 ≠ caller)) []

/-- A progress moves the calls as an event may, and hands out replies only. -/
def FollowsCalls (p : Profile σ) (c : Connection σ) (e : Event) (q : Progress σ) : Prop :=
  ∃ calls ended, Moves p c e calls ended ∧ CallsAfter (Replies p c e q.1) calls q.1 ∧
    q.2.filterMap Output.ended? = ended

theorem Undisturbing.followsCalls {may : UInt64 → Reply → Prop} {e : Event} {q : Progress σ}
    (he : Waits c e) (h : Undisturbing may c q)
    (hmay : ∀ n reply, may n reply → Replies p c e q.1 n reply) : FollowsCalls p c e q :=
  ⟨c.calls, [], .stay he, h.1.mono hmay, h.2⟩

theorem Closed.replies {e : Event} {after : Connection σ} {n : UInt64} {reply : Reply}
    (h : Closed after n reply) : Replies p c e after n reply := by
  obtain ⟨rfl, hshut⟩ := h
  exact .shut hshut

theorem followsCalls_closed {e : Event} {q : Progress σ} (he : Waits c e) (h : Closing c q) :
    FollowsCalls p c e q := h.followsCalls he fun _ _ => Closed.replies

theorem followsCalls_stay {e : Event} {q : Progress σ} (he : Waits c e)
    (h : q.1.calls = c.calls) (ho : q.2.filterMap Output.ended? = []) : FollowsCalls p c e q :=
  followsCalls_closed he (undisturbing_refl h ho)

theorem call?_forget (caller : Nat) : (c.forget caller).call? caller = none := by
  obtain ⟨g, hg, -⟩ := callsAfter_forget (c := c) caller
  rw [call?, hg, lookup_map, lookup_filter_self]
  rfl

theorem Forsaken.replies {e : Event} {before : Connection σ} {caller : Nat} {n : UInt64}
    {reply : Reply} (h : Forsaken before caller n reply)
    (hcall : ∀ k, before.call? caller = some k → k.number? = some n →
      ∃ k', c.call? caller = some k' ∧ k'.number? = some n) :
    Replies p c e (before.forget caller) n reply := by
  obtain ⟨rfl, k, hk, hn⟩ := h
  obtain ⟨k', hk', hn'⟩ := hcall k hk hn
  exact .forsaken hk' hn' (call?_forget caller)

theorem followsCalls_finish {e : Event} {caller : Nat} {k : Call} {ending : Ending}
    {before : Connection σ} (hcalls : before.calls = c.calls) (hk : c.call? caller = some k)
    (he : Ends c e caller k ending) : FollowsCalls p c e (before.finish caller ending) := by
  refine ⟨_, _, .ended hk he, ?_, rfl⟩
  have h := callsAfter_forget (c := before) caller
  rw [hcalls] at h
  refine h.mono fun n reply hreply => hreply.replies fun k' hk' hn => ⟨k', ?_, hn⟩
  rwa [call?, hcalls] at hk'

theorem start_calls : FollowsCalls p c .start (c.start p) := by
  have hfail : ∀ e, FollowsCalls p c .start
      (({ c with phase := .connecting } : Connection σ).failHandshake e) := fun e =>
    followsCalls_closed (waits_of_ne (by simp))
      (failHandshake_closing (c := { c with phase := .connecting }) e)
  unfold start
  split
  · exact followsCalls_stay (waits_of_ne (by simp)) rfl rfl
  · split
    · split
      · exact followsCalls_stay (waits_of_ne (by simp)) rfl rfl
      · exact followsCalls_stay (waits_of_ne (by simp)) rfl rfl
    · simp only
      split
      · exact hfail _
      · split
        · exact hfail _
        · split
          · exact hfail _
          · rename_i hq
            have hcalls := enqueue_calls hq
            exact followsCalls_stay (waits_of_ne (by simp)) hcalls rfl

theorem stop_calls : FollowsCalls p c .stop (c.stop p) := by
  unfold stop
  split
  · split
    · exact followsCalls_closed (waits_of_ne (by simp)) teardown_closing
    · split
      · exact followsCalls_closed (waits_of_ne (by simp)) teardown_closing
      · rename_i hq
        have hcalls := enqueue_calls hq
        exact followsCalls_stay (waits_of_ne (by simp)) hcalls rfl
  · exact followsCalls_closed (waits_of_ne (by simp)) teardown_closing

/-- The checks at the door do not speak for a handler. -/
theorem gate_ne_service {phase : Phase} {expects : Bool} {x : CallContext} {m : Moment}
    {cause : CallError} (h : gate phase expects x m = some cause) (code : UInt32) (text : String) :
    cause ≠ .service code text := by
  unfold gate phaseGate at h
  intro he
  subst he
  cases phase <;> simp at h
  split at h
  · cases h
  · split at h <;> cases h

theorem call_calls {caller : Nat} {expects : Bool} {context : CallContext} {moment : Moment}
    {method : String} {payload : Bytes} :
    FollowsCalls p c (.call caller expects context moment method payload)
      (c.call caller expects context moment method payload) := by
  unfold call
  split
  · exact followsCalls_stay (waits_of_ne (by simp)) rfl rfl
  · rename_i hsome
    have hk : c.call? caller = none := by simpa using hsome
    split
    · rename_i hgate
      exact ⟨_, _, .refused hk (gate_ne_service hgate), callsAfter_refl rfl, rfl⟩
    · exact ⟨_, _, .joined hk, callsAfter_refl rfl, rfl⟩

theorem number_calls {caller : Nat} {k : Call} (hk : c.call? caller = some k)
    (hs : k.stage = .admitted) : FollowsCalls p c (.advance caller) (c.number caller k) := by
  unfold number
  cases hx : k.expectsAnswer with
  | true =>
    cases hclosed : c.table.closed with
    | true =>
      simp only [CallTable.register, hclosed, if_true]
      exact followsCalls_finish rfl hk (.unnumbered hs)
    | false =>
      simp only [CallTable.register, hclosed, if_true, Bool.false_eq_true, if_false]
      exact ⟨_, _, .numbered hk hs (by simp [draws, hk, hs, hx, hclosed]), callsAfter_refl rfl, rfl⟩
  | false =>
    simp only [Bool.false_eq_true, if_false]
    exact ⟨_, _, .numbered hk hs (by simp [draws, hk, hs, hx]), callsAfter_refl rfl, rfl⟩

theorem frame_calls {caller : Nat} {k : Call} {n : UInt64} (hk : c.call? caller = some k)
    (hs : k.stage = .numbered n) :
    FollowsCalls p c (.advance caller) (c.frame p caller k n) := by
  unfold frame
  simp only
  split
  · rename_i cause hcause
    exact followsCalls_finish rfl hk (.unframed hs (messageFrame_error hcause))
  · rename_i f hf
    split
    · exact followsCalls_finish rfl hk (.unframed hs (by simp))
    · rename_i hq
      obtain ⟨-, rfl⟩ := enqueue_ok hq
      exact ⟨_, _, .queued hk hs hf, callsAfter_refl rfl, rfl⟩

theorem advance_calls (caller : Nat) :
    FollowsCalls p c (.advance caller) (c.advance p caller) := by
  unfold advance
  split
  · rename_i hk
    refine followsCalls_stay (fun caller' k he hk' => ?_) rfl rfl
    cases he
    rw [hk] at hk'
    cases hk'
  · rename_i k hk
    have hself : ((∃ n, k.stage = .writing n) ∨ ∃ n, k.stage = .awaiting n ∧ k.inbox = none) →
        Waits c (.advance caller) := by
      intro h caller' k' he hk'
      cases he
      rw [hk] at hk'
      cases hk'
      exact h
    split
    · rename_i hs
      exact number_calls hk hs
    · rename_i n hs
      exact frame_calls hk hs
    · rename_i n hs
      exact followsCalls_stay (hself (Or.inl ⟨n, hs⟩)) rfl rfl
    · rename_i n hs
      split
      · rename_i hi
        exact followsCalls_stay (hself (Or.inr ⟨n, hs, hi⟩)) rfl rfl
      · rename_i payload hi
        exact followsCalls_finish rfl hk (.answered hs hi)
      · rename_i e hi
        exact followsCalls_finish rfl hk (.answered hs hi)

/-- Only the frames of calls matter to the calls. -/
theorem resume_closing {result : Except TransportError Unit} {purpose : Purpose}
    (hpurpose : ∀ caller n, purpose ≠ .call caller n) :
    Closing c (c.resume p result purpose) := by
  unfold resume
  split
  · rename_i caller n
    exact absurd rfl (hpurpose caller n)
  · exact undisturbing_refl rfl rfl
  · split
    · exact undisturbing_refl rfl rfl
    · exact failHandshake_closing _
    · exact undisturbing_refl rfl rfl
  · split
    · exact undisturbing_refl rfl rfl
    · exact leave_closing
  · exact undisturbing_refl rfl rfl
  · exact leave_closing
  · exact teardown_closing

theorem teardown_shut (h : c.shut = true) : c.teardown.1.shut = true := by
  unfold teardown
  split
  · exact h
  · rfl

/-- A stream that is shut stays so. -/
theorem resume_shut {result : Except TransportError Unit} (purpose : Purpose)
    (h : c.shut = true) : (c.resume p result purpose).1.shut = true := by
  have hresumed := resume_resumed p c result purpose
  generalize c.resume p result purpose = q at hresumed ⊢
  cases hresumed with
  | unchanged | awaiting | greeted | reading => exact h
  | finished caller => exact (forget_shut c caller).trans h
  | failed | left => exact teardown_shut (c := { c with loop := .over }) h
  | tornDown => exact teardown_shut h

theorem followsCalls_cons {e : Event} {q : Progress σ} {o : Output} (h : FollowsCalls p c e q)
    (ho : o.ended? = none) : FollowsCalls p c e (q.1, o :: q.2) := by
  obtain ⟨calls, ended, hmoves, hcalls, hended⟩ := h
  exact ⟨calls, ended, hmoves, hcalls, by rw [List.filterMap_cons, ho, hended]⟩

/-- What a caller does whose frame did not get onto the wire. -/
theorem resume_error_calls {e : Event} {before : Connection σ} {caller : Nat} {n : UInt64}
    {cause : TransportError} (hwaits : Waits c e) (hcalls : before.calls = c.calls)
    (he : ∀ k, k.stage = .writing n → Ends c e caller k (.failed (.transport cause))) :
    FollowsCalls p c e (before.resume p (.error cause) (.call caller n)) := by
  simp only [resume]
  split
  · exact followsCalls_stay hwaits hcalls rfl
  · rename_i k hk
    split
    · rename_i hs
      rw [call?, hcalls] at hk
      exact followsCalls_finish hcalls hk (he k hs)
    · exact followsCalls_stay hwaits hcalls rfl

theorem resume_ok_calls {w caller : Nat} {n : UInt64} {f : Frame}
    (hw : c.writers.lookup w = some ⟨.call caller n, f⟩) (hshut : c.shut = false) :
    FollowsCalls p c (.write w) ((c.dropWriter w).resume p (.ok ()) (.call caller n)) := by
  simp only [resume]
  split
  · exact followsCalls_stay (waits_of_ne (by simp)) rfl rfl
  · rename_i k hk
    split
    · rename_i hs
      cases hx : k.expectsAnswer with
      | true =>
        simp only [if_true]
        exact ⟨_, _, .sent hw hshut hk hs hx, callsAfter_refl rfl, rfl⟩
      | false =>
        simp only [Bool.false_eq_true, if_false]
        exact followsCalls_finish rfl hk (.sent hs hx)
    · exact followsCalls_stay (waits_of_ne (by simp)) rfl rfl

theorem write_calls (w : Nat) : FollowsCalls p c (.write w) (c.write p w) := by
  cases hw : c.writers.lookup w with
  | none =>
    simp only [write, hw]
    exact followsCalls_stay (waits_of_ne (by simp)) rfl rfl
  | some v =>
    obtain ⟨purpose, f⟩ := v
    simp only [write, hw]
    have hother : (∀ caller n, purpose ≠ .call caller n) → ∀ result,
        FollowsCalls p c (.write w) ((c.dropWriter w).resume p result purpose) := fun h result =>
      followsCalls_closed (waits_of_ne (by simp)) (resume_closing (c := c.dropWriter w) h)
    have hshut : (c.dropWriter w).shut = c.shut := rfl
    cases hc : c.shut with
    | true =>
      rw [hshut, if_pos hc]
      cases purpose with
      | call caller n =>
        exact resume_error_calls (waits_of_ne (by simp)) rfl fun k hs => .shutOut hs hc
      | _ => exact hother (by simp) _
    | false =>
      rw [hshut, if_neg (by simp [hc])]
      refine followsCalls_cons ?_ rfl
      cases purpose with
      | call caller n => exact resume_ok_calls hw hc
      | _ => exact hother (by simp) _

theorem CallsAfter.call? {may : UInt64 → Reply → Prop} {after : Connection σ}
    (h : CallsAfter may c.calls after) {caller : Nat} {k' : Call}
    (hk : after.call? caller = some k') : ∃ k, c.call? caller = some k ∧ k.Receives may k' := by
  obtain ⟨g, hg, hreceives⟩ := h
  rw [Connection.call?, hg, lookup_map] at hk
  obtain ⟨k, hlookup, rfl⟩ := Option.map_eq_some_iff.mp hk
  exact ⟨k, hlookup, hreceives k⟩

theorem CallsAfter.filter {may : UInt64 → Reply → Prop} {after : Connection σ}
    (h : CallsAfter may c.calls after) (caller : Nat) :
    CallsAfter may (c.calls.filter (·.1 ≠ caller))
      { after with calls := after.calls.filter (·.1 ≠ caller) } := by
  obtain ⟨g, hg, hreceives⟩ := h
  refine ⟨g, ?_, hreceives⟩
  change after.calls.filter (·.1 ≠ caller) = _
  rw [hg, filter_map_key]

/-- A failed write closes the connection before its caller hears of it. -/
theorem failWrite_calls (w : Nat) (fault : IoFault) :
    FollowsCalls p c (.failWrite w fault) (c.failWrite p w fault) := by
  cases hw : c.writers.lookup w with
  | none =>
    simp only [failWrite, hw]
    exact followsCalls_stay (waits_of_ne (by simp)) rfl rfl
  | some v =>
    obtain ⟨purpose, f⟩ := v
    simp only [failWrite, hw, Progress.andThen]
    obtain ⟨hcalls, ho⟩ := teardown_closing (c := c.dropWriter w)
    generalize (if (c.dropWriter w).shut then TransportError.connectionClosed else .io fault) =
      cause
    have hclosed : ∀ {q : Progress σ}, Closing (c.dropWriter w).teardown.1 q →
        ((c.dropWriter w).teardown.1.shut = true → q.1.shut = true) →
        FollowsCalls p c (.failWrite w fault) (q.1, (c.dropWriter w).teardown.2 ++ q.2) := by
      intro q h hshut
      have hcalls' := hcalls.mono fun _ _ hr => And.intro hr.1 (hshut hr.2)
      refine followsCalls_closed (waits_of_ne (by simp)) ⟨CallsAfter.trans hcalls' h.1, ?_⟩
      rw [List.filterMap_append, ho, h.2, List.append_nil]
    cases purpose with
    | call caller n =>
      simp only [resume]
      split
      · exact hclosed (undisturbing_refl rfl rfl) id
      · rename_i k' hk'
        split
        · rename_i hs
          obtain ⟨k, hk, hreceives⟩ := hcalls.call? hk'
          have hstage : k.stage = .writing n := hreceives.stage ▸ hs
          have hends : Ends c (.failWrite w fault) caller k (.failed (.transport cause)) :=
            .unwritten hstage
          refine ⟨_, _, .ended hk hends, CallsAfter.trans ((hcalls.filter caller).mono ?_)
            ((callsAfter_forget caller).mono ?_), ?_⟩
          · exact fun _ _ hr => Closed.replies
              ⟨hr.1, (forget_shut (c.dropWriter w).teardown.1 caller).trans hr.2⟩
          · intro m reply hreply
            refine hreply.replies fun k'' hk'' hm => ⟨k, hk, ?_⟩
            rw [hk'] at hk''
            cases hk''
            rwa [← hreceives.number?]
          · rw [List.filterMap_append, ho]
            rfl
        · exact hclosed (undisturbing_refl rfl rfl) id
    | _ => exact hclosed (resume_closing (by simp)) (resume_shut _)

theorem accept_calls {f : Frame} (hl : c.loop = .reading) :
    FollowsCalls p c (.arrive (.frame f)) (c.accept p f) := by
  have h := follow_undisturbing (p := p)
    (c := { c with surroundings := (react p.side p.stack f c.surroundings).2 })
    (react p.side p.stack f c.surroundings).1
  have hfollow : FollowsCalls p c (.arrive (.frame f)) _ :=
    Undisturbing.followsCalls (waits_of_ne (by simp)) h fun n reply hreply => by
      rcases hreply with hreply | hreply
      · exact hreply.replies
      · refine .taken (f := f) ?_
        rw [takes_frame hl, hreply]
        exact List.mem_singleton_self _
  exact followsCalls_cons hfollow rfl

theorem greet_calls (incoming : Incoming) :
    FollowsCalls p c (.arrive incoming) (c.greet p incoming) := by
  cases incoming with
  | frame f =>
    simp only [greet]
    split
    · exact followsCalls_stay (waits_of_ne (by simp)) rfl rfl
    · rename_i e _
      exact followsCalls_cons (q := c.failHandshake e)
        (followsCalls_closed (waits_of_ne (by simp)) (failHandshake_closing e)) rfl
  | malformed e => exact followsCalls_closed (waits_of_ne (by simp)) (failHandshake_closing _)
  | broken fault => exact followsCalls_closed (waits_of_ne (by simp)) (failHandshake_closing _)
  | ended => exact followsCalls_closed (waits_of_ne (by simp)) (failHandshake_closing _)

theorem arrive_calls (incoming : Incoming) :
    FollowsCalls p c (.arrive incoming) (c.arrive p incoming) := by
  unfold arrive
  split
  · exact greet_calls incoming
  · rename_i hl
    cases incoming with
    | frame f => exact accept_calls hl
    | malformed e => exact followsCalls_closed (waits_of_ne (by simp)) (violate_closing _ _)
    | broken fault => exact followsCalls_closed (waits_of_ne (by simp)) leave_closing
    | ended => exact followsCalls_closed (waits_of_ne (by simp)) leave_closing
  · exact followsCalls_stay (waits_of_ne (by simp)) rfl rfl

theorem answer_calls (handler : Nat) (result : Except Fault Bytes) :
    FollowsCalls p c (.answer handler result) (c.answer p handler result) := by
  unfold answer
  split
  · exact followsCalls_stay (waits_of_ne (by simp)) rfl rfl
  · simp only
    split
    · exact followsCalls_stay (waits_of_ne (by simp)) rfl rfl
    · split
      · rename_i hq
        have hcalls := enqueue_calls hq
        exact followsCalls_stay (waits_of_ne (by simp)) hcalls rfl
      · exact followsCalls_stay (waits_of_ne (by simp)) rfl rfl

theorem calls_step (e : Event) : FollowsCalls p c e (c.step p e) := by
  cases e with
  | start => exact start_calls
  | call caller expects context moment method payload => exact call_calls
  | advance caller => exact advance_calls caller
  | expire caller =>
    simp only [step, expire]
    split
    · rename_i k hk
      split
      · rename_i n d hs hd
        exact followsCalls_finish rfl hk (.expired hs)
      · exact followsCalls_stay (waits_of_ne (by simp)) rfl rfl
    · exact followsCalls_stay (waits_of_ne (by simp)) rfl rfl
  | cancel caller =>
    simp only [step, cancel]
    split
    · rename_i k hk
      split
      · rename_i n t hs ht
        exact followsCalls_finish rfl hk (.cancelled hs)
      · exact followsCalls_stay (waits_of_ne (by simp)) rfl rfl
    · exact followsCalls_stay (waits_of_ne (by simp)) rfl rfl
  | abandon caller =>
    refine ⟨_, _, .abandoned, (callsAfter_forget caller).mono fun _ _ hreply => ?_, rfl⟩
    exact hreply.replies fun k hk hn => ⟨k, hk, hn⟩
  | write w => exact write_calls w
  | failWrite w fault => exact failWrite_calls w fault
  | arrive incoming => exact arrive_calls incoming
  | answer handler result => exact answer_calls handler result
  | handshakeTimeout waited =>
    simp only [step, timeOutHandshake]
    split
    · exact followsCalls_closed (waits_of_ne (by simp)) (failHandshake_closing _)
    · exact followsCalls_closed (waits_of_ne (by simp)) (failHandshake_closing _)
    · exact followsCalls_stay (waits_of_ne (by simp)) rfl rfl
  | stop => exact stop_calls

end Connection

end Rpc
