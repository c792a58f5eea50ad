import Rpc.Proofs.Call.Search
import Rpc.Proofs.Connection.Owners

/-! # Going on without a call

A call that is not being written may be taken out of a connection, with its number. What is left does
step by step what the whole does, except that the call itself is told nothing: an answer to it finds
nobody, a teardown fails one call less, and the search for the next number comes to the same one, as
long as this is not the number that has become free.
-/
namespace Rpc

open Message

/-- Whether an output tells a caller how its call ended. -/
def Output.tells (caller : Nat) : Output → Bool
  | .ended other _ => other = caller
  | _ => false

/-- The connection without a call, and its table without a number. -/
def Connection.without {σ : Type} (c : Connection σ) (caller : Nat) (n : UInt64) : Connection σ :=
  { c with calls := c.calls.filter (·.1 ≠ caller), table := (c.table.remove n).2 }

/-- What is seen of a progress without a call. -/
def Progress.without {σ : Type} (q : Progress σ) (caller : Nat) (n : UInt64) : Progress σ :=
  (q.1.without caller n, q.2.filter fun o => !o.tells caller)

/-- A call is not being written, and nobody else has the number that it may have. -/
structure Separate (calls : List (Nat × Call)) (caller : Nat) (n : UInt64) : Prop where
  unwritten : ∀ k m, (caller, k) ∈ calls → k.stage ≠ .writing m
  own : ∀ k m, (caller, k) ∈ calls → k.number? = some m → m = n
  only : ∀ x ∈ calls, x.2.number? = some n → x.1 = caller

/-- A call waits for its answer under a number that no other call has, or it has gone. -/
structure Alone (calls : List (Nat × Call)) (caller : Nat) (n : UInt64) : Prop where
  waits : ∀ k, (caller, k) ∈ calls → k.stage = .awaiting n
  only : ∀ x ∈ calls, x.2.number? = some n → x.1 = caller

theorem Alone.separate {calls : List (Nat × Call)} {caller : Nat} {n : UInt64}
    (h : Alone calls caller n) : Separate calls caller n where
  unwritten k m hk := by
    rw [h.waits k hk]
    exact Stage.noConfusion
  own k m hk hm := by
    have hwaits := h.waits k hk
    unfold Call.number? at hm
    rw [hwaits] at hm
    cases hx : k.expectsAnswer <;> simp [hx] at hm
    exact hm.symm
  only := h.only

theorem Separate.filter {calls : List (Nat × Call)} {caller : Nat} {n : UInt64}
    (h : Separate calls caller n) (other : Nat) :
    Separate (calls.filter (·.1 ≠ other)) caller n where
  unwritten k m hk := h.unwritten k m (List.mem_filter.mp hk).1
  own k m hk := h.own k m (List.mem_filter.mp hk).1
  only x hx := h.only x (List.mem_filter.mp hx).1

namespace Connection

variable {σ : Type} {p : Profile σ} {c : Connection σ} {caller other : Nat} {n m : UInt64}
  {k : Call} {reply : Reply} {e : Event}

theorem Progress.without_andThen {q : Progress σ} {f g : Connection σ → Progress σ}
    (h : g (q.1.without caller n) = (f q.1).without caller n) :
    (q.without caller n).andThen g = (q.andThen f).without caller n := by
  unfold Progress.andThen Progress.without
  simp only [List.filter_append]
  rw [h]
  rfl

/-! ## The calls that are left -/

theorem call?_without_self : (c.without caller n).call? caller = none :=
  lookup_filter_self c.calls caller

theorem call?_without (hne : other ≠ caller) : (c.without caller n).call? other = c.call? other :=
  lookup_filter_ne hne c.calls

theorem setStage_without (other : Nat) (stage : Stage) :
    (c.without caller n).setStage other stage = (c.setStage other stage).without caller n := by
  have hcalls : (c.calls.filter (·.1 ≠ caller)).map
      (fun e => if e.1 = other then (e.1, { e.2 with stage }) else e) =
      (c.calls.map fun e => if e.1 = other then (e.1, { e.2 with stage }) else e).filter
        (·.1 ≠ caller) := by
    rw [List.filter_map]
    congr 1
    refine List.filter_congr fun e _ => ?_
    simp only [Function.comp]
    split <;> rfl
  unfold setStage without
  simp only [hcalls]

/-- A reply to other numbers passes the call by. -/
theorem receive_calls_without (h : Separate c.calls caller n) (under under' : UInt64 → Bool)
    (reply : Reply) (hunder : ∀ m, m ≠ n → under' m = under m) :
    (c.calls.filter (·.1 ≠ caller)).map (fun e => (e.1, e.2.receive under' reply)) =
      (c.calls.map fun e => (e.1, e.2.receive under reply)).filter (·.1 ≠ caller) := by
  rw [filter_map_key]
  refine List.map_congr_left fun x hx => ?_
  obtain ⟨hmem, hne⟩ := List.mem_filter.mp hx
  have hother : x.2.number? ≠ some n := fun hn => of_decide_eq_true hne (h.only x hmem hn)
  have hsame : x.2.receive under' reply = x.2.receive under reply := by
    unfold Call.receive
    split
    · rename_i m hm _
      have hmn : m ≠ n := by
        rintro rfl
        exact hother hm
      rw [hunder m hmn]
    · rfl
  rw [hsame]

/-- A reply to the number of the call is for nobody else. -/
theorem receive_own (h : Separate c.calls caller n) (reply : Reply) :
    (c.calls.filter (·.1 ≠ caller)).map (fun e => (e.1, e.2.receive (· = n) reply)) =
      c.calls.filter (·.1 ≠ caller) := by
  have hnone := receive_calls_without h (fun m => m = n) (fun _ => false) reply
    fun m hm => by simp [hm]
  have hsame : ∀ k : Call, k.receive (fun _ => false) reply = k := by
    intro k
    unfold Call.receive
    split <;> simp
  rw [filter_map_key] at hnone
  rw [← hnone]
  simp only [hsame]
  exact List.map_id _

theorem separate_receive {under : UInt64 → Bool} {calls calls' : List (Nat × Call)}
    (h : Separate calls caller n)
    (hcalls : calls' = calls.map fun e => (e.1, e.2.receive under reply)) :
    Separate calls' caller n := by
  have hkeeps : ∀ k : Call, (k.receive under reply).stage = k.stage ∧
      (k.receive under reply).number? = k.number? := by
    intro k
    unfold Call.receive
    split
    · split <;> exact ⟨rfl, rfl⟩
    · exact ⟨rfl, rfl⟩
  subst hcalls
  constructor
  · intro k m hk
    obtain ⟨x, hx, heq⟩ := List.mem_map.mp hk
    obtain ⟨rfl, rfl⟩ := Prod.mk.inj heq
    rw [(hkeeps x.2).1]
    exact h.unwritten x.2 m hx
  · intro k m hk hm
    obtain ⟨x, hx, heq⟩ := List.mem_map.mp hk
    obtain ⟨rfl, rfl⟩ := Prod.mk.inj heq
    rw [(hkeeps x.2).2] at hm
    exact h.own x.2 m hx hm
  · intro y hy hn
    obtain ⟨x, hx, rfl⟩ := List.mem_map.mp hy
    rw [(hkeeps x.2).2] at hn
    exact h.only x hx hn

/-! ## The small operations -/

theorem teardown_without (h : Separate c.calls caller n) :
    (c.without caller n).teardown = c.teardown.without caller n := by
  unfold teardown
  by_cases hover : c.phase.isOver = true
  · have hover' : (c.without caller n).phase.isOver = true := hover
    rw [if_pos hover, if_pos hover']
    rfl
  · have hover' : ¬ (c.without caller n).phase.isOver = true := hover
    rw [if_neg hover, if_neg hover']
    have hcalls := receive_calls_without h (· ∈ c.table.waiting)
      (· ∈ (c.table.remove n).2.waiting) closedReply (by
        intro m hm
        simp [CallTable.remove, hm])
    unfold deliver without Progress.without
    simp only [hcalls]
    rfl

theorem leave_without (h : Separate c.calls caller n) :
    (c.without caller n).leave = c.leave.without caller n :=
  teardown_without (c := { c with loop := .over }) h

theorem failHandshake_without (h : Separate c.calls caller n) (cause : TransportError) :
    (c.without caller n).failHandshake cause = (c.failHandshake cause).without caller n := by
  unfold failHandshake
  rw [leave_without h]
  simp only [Progress.without, List.cons_append, List.filter_append, List.filter_cons,
    List.filter_nil, Output.tells, Bool.not_false, if_true]

theorem enqueue_without (c : Connection σ) (caller : Nat) (n : UInt64) (purpose : Purpose)
    (f : Frame) : (c.without caller n).enqueue p purpose f =
      (c.enqueue p purpose f).map fun c => c.without caller n := by
  unfold enqueue
  split <;> rfl

/-- A reply to the call itself is not seen, and nobody else is given it. -/
theorem resolve_without (h : Separate c.calls caller n) (m : UInt64) (reply : Reply) :
    (c.without caller n).resolve m reply = (c.resolve m reply).without caller n := by
  by_cases hm : m ∈ c.table.waiting
  · rw [resolve_of_mem c reply m hm]
    by_cases hmn : m = n
    · subst hmn
      rw [resolve_of_not_mem _ _ _ (CallTable.not_mem_remove c.table m)]
      have hcalls := receive_own h reply
      rw [← filter_map_key] at hcalls
      unfold without CallTable.remove
      simp only [hcalls, List.filter_filter, Bool.and_self]
    · have hmem : m ∈ (c.without caller n).table.waiting :=
        List.mem_filter.mpr ⟨hm, by simpa using hmn⟩
      rw [resolve_of_mem _ reply m hmem]
      have hcalls := receive_calls_without h (· = m) (· = m) reply fun _ _ => rfl
      unfold without CallTable.remove
      simp only [hcalls, List.filter_filter, Bool.and_comm]
  · have hmem : m ∉ (c.without caller n).table.waiting := fun h => hm (List.mem_filter.mp h).1
    rw [resolve_of_not_mem _ _ _ hm, resolve_of_not_mem _ _ _ hmem]

theorem forget_without (h : Separate c.calls caller n) (other : Nat) :
    (c.without caller n).forget other = (c.forget other).without caller n := by
  have hfilter : (c.calls.filter (·.1 ≠ other)).filter (·.1 ≠ caller) =
      (c.calls.filter (·.1 ≠ caller)).filter (·.1 ≠ other) := by
    rw [List.filter_filter, List.filter_filter]
    exact List.filter_congr fun _ _ => Bool.and_comm _ _
  have hrest : ({ c with calls := c.calls.filter (·.1 ≠ other) } : Connection σ).without caller n =
      { c.without caller n with calls := (c.without caller n).calls.filter (·.1 ≠ other) } := by
    unfold without
    simp only [hfilter]
  have hseparate := h.filter other
  unfold forget
  dsimp only
  rw [← hrest]
  by_cases hother : other = caller
  · subst hother
    rw [call?_without_self, Option.bind_none]
    cases hnumber : (c.call? other).bind Call.number? with
    | none => rfl
    | some m =>
      obtain ⟨k, hk, hm⟩ := Option.bind_eq_some_iff.mp hnumber
      obtain rfl := h.own k m (mem_of_lookup hk) hm
      dsimp only
      rw [← resolve_without (c := { c with calls := _ }) hseparate]
      exact (resolve_of_not_mem _ _ _ (CallTable.not_mem_remove c.table m)).symm
  · rw [call?_without hother]
    cases (c.call? other).bind Call.number? with
    | none => rfl
    | some m => exact resolve_without (c := { c with calls := _ }) hseparate m _

/-- The call itself is not heard to end. -/
theorem finish_without_self (h : Separate c.calls caller n) (ending : Ending) :
    (c.finish caller ending).without caller n = (c.without caller n, []) := by
  have hgone := forget_without h caller
  have hsame : (c.without caller n).forget caller = c.without caller n := by
    unfold forget
    dsimp only
    rw [call?_without_self, Option.bind_none]
    dsimp only
    unfold without
    simp only [List.filter_filter, Bool.and_self]
  unfold finish Progress.without
  simp only [List.filter_cons, List.filter_nil, Output.tells, decide_true, Bool.not_true,
    Bool.false_eq_true, if_false]
  rw [← hgone, hsame]

theorem finish_without (h : Separate c.calls caller n) (hne : other ≠ caller) (ending : Ending) :
    (c.without caller n).finish other ending = (c.finish other ending).without caller n := by
  unfold finish Progress.without
  rw [forget_without h]
  simp [Output.tells, hne]

/-! ## Frames that are written -/

theorem dropWriter_without (w : Nat) :
    (c.without caller n).dropWriter w = (c.dropWriter w).without caller n := rfl

theorem resume_without (h : Separate c.calls caller n) (result : Except TransportError Unit)
    (purpose : Purpose) :
    (c.without caller n).resume p result purpose =
      (c.resume p result purpose).without caller n := by
  cases purpose with
  | call other m =>
    unfold resume
    dsimp only
    by_cases hother : other = caller
    · subst hother
      rw [call?_without_self]
      dsimp only
      cases hk : c.call? other with
      | none => rfl
      | some k =>
        dsimp only
        rw [if_neg (h.unwritten k m (mem_of_lookup hk))]
        rfl
    · rw [call?_without hother]
      cases hk : c.call? other with
      | none => rfl
      | some k =>
        dsimp only
        split
        · cases result with
          | error cause => exact finish_without h hother _
          | ok done =>
            dsimp only
            split
            · rw [setStage_without]
              rfl
            · exact finish_without h hother _
        · rfl
  | answer => rfl
  | greeting =>
    unfold resume
    dsimp only
    have hloop : (c.without caller n).loop = c.loop := rfl
    rw [hloop]
    cases c.loop with
    | greeting =>
      cases result with
      | error cause => exact failHandshake_without h _
      | ok done => rfl
    | _ => rfl
  | greetingBack =>
    cases result with
    | error cause => exact leave_without h
    | ok done => rfl
  | turnDown => rfl
  | violation => exact leave_without h
  | farewell => exact teardown_without h

theorem separate_teardown (h : Separate c.calls caller n) :
    Separate c.teardown.1.calls caller n := by
  unfold teardown
  split
  · exact h
  · exact separate_receive h rfl

theorem write_without (h : Separate c.calls caller n) (w : Nat) :
    (c.without caller n).write p w = (c.write p w).without caller n := by
  unfold write
  have hwriters : (c.without caller n).writers = c.writers := rfl
  rw [hwriters]
  cases c.writers.lookup w with
  | none => rfl
  | some writer =>
    have hshut : ((c.without caller n).dropWriter w).shut = (c.dropWriter w).shut := rfl
    dsimp only
    rw [hshut]
    split
    · exact resume_without (c := c.dropWriter w) h _ _
    · have hresume := resume_without (p := p) (c := c.dropWriter w) h (.ok ()) writer.purpose
      rw [dropWriter_without, hresume]
      rfl

theorem failWrite_without (h : Separate c.calls caller n) (w : Nat) (fault : IoFault) :
    (c.without caller n).failWrite p w fault = (c.failWrite p w fault).without caller n := by
  unfold failWrite
  have hwriters : (c.without caller n).writers = c.writers := rfl
  rw [hwriters]
  cases c.writers.lookup w with
  | none => rfl
  | some writer =>
    have hshut : ((c.without caller n).dropWriter w).shut = (c.dropWriter w).shut := rfl
    have hteardown := teardown_without (c := c.dropWriter w) h
    dsimp only
    rw [hshut, dropWriter_without, hteardown]
    exact Progress.without_andThen (resume_without (separate_teardown (c := c.dropWriter w) h) _ _)

/-! ## Frames that arrive -/

theorem say_without (otherwise : Connection σ → Progress σ) (purpose : Purpose)
    (f : Except CodecError Frame)
    (h : otherwise (c.without caller n) = (otherwise c).without caller n) :
    (c.without caller n).say p purpose f otherwise =
      (c.say p purpose f otherwise).without caller n := by
  unfold say
  cases f with
  | error cause => exact h
  | ok f =>
    dsimp only
    rw [enqueue_without]
    cases c.enqueue p purpose f with
    | error cause => exact h
    | ok queued => rfl

theorem violate_without (h : Separate c.calls caller n) (code : UInt32) (details : String) :
    (c.without caller n).violate p code details =
      (c.violate p code details).without caller n := by
  unfold violate
  rw [say_without leave _ _ (leave_without h)]
  rfl

theorem follow_without (h : Separate c.calls caller n) (r : Reaction) :
    (c.without caller n).follow p r = (c.follow p r).without caller n := by
  cases r with
  | readOn => rfl
  | greetBack => exact say_without leave .greetingBack (noticeFrame .greeting) (leave_without h)
  | violation code details => exact violate_without h code details
  | leave => exact leave_without h
  | serve m d => rfl
  | notify d => rfl
  | turnDown m fault =>
    unfold follow
    dsimp only
    have hs : (c.without caller n).surroundings = c.surroundings := rfl
    rw [hs]
    cases (finalAnswer p.stack m (.error fault) c.surroundings).1 with
    | none => rfl
    | some f =>
      exact say_without (fun c => (c, []))
        (c := { c with surroundings := (finalAnswer p.stack m (.error fault) c.surroundings).2 })
        .turnDown (.ok f) rfl
  | complete m reply =>
    exact congrArg (fun after : Connection σ => ((after, []) : Progress σ))
      (resolve_without h m reply)

theorem accept_without (h : Separate c.calls caller n) (f : Frame) :
    (c.without caller n).accept p f = (c.accept p f).without caller n := by
  unfold accept
  have hs : (c.without caller n).surroundings = c.surroundings := rfl
  dsimp only
  rw [hs]
  have hfollow := follow_without (p := p)
    (c := { c with surroundings := (react p.side p.stack f c.surroundings).2 }) h
    (react p.side p.stack f c.surroundings).1
  exact congrArg (fun q : Progress σ => (q.1, Output.received f.kind :: q.2)) hfollow

theorem greet_without (h : Separate c.calls caller n) (incoming : Incoming) :
    (c.without caller n).greet p incoming = (c.greet p incoming).without caller n := by
  cases incoming with
  | frame f =>
    cases hgreeting : expectGreeting f with
    | ok up =>
      simp only [greet, hgreeting]
      rfl
    | error cause =>
      simp only [greet, hgreeting, failHandshake_without h]
      rfl
  | malformed cause => exact failHandshake_without h _
  | broken fault => exact failHandshake_without h _
  | ended => exact failHandshake_without h _

theorem arrive_without (h : Separate c.calls caller n) (incoming : Incoming) :
    (c.without caller n).arrive p incoming = (c.arrive p incoming).without caller n := by
  unfold arrive
  have hloop : (c.without caller n).loop = c.loop := rfl
  rw [hloop]
  cases c.loop with
  | greeted => exact greet_without h incoming
  | reading =>
    cases incoming with
    | frame f => exact accept_without h f
    | malformed cause => exact violate_without h _ _
    | broken fault => exact leave_without h
    | ended => exact leave_without h
  | _ => rfl

theorem answer_without (handler : Nat) (result : Except Fault Bytes) :
    (c.without caller n).answer p handler result = (c.answer p handler result).without caller n := by
  unfold answer
  have hserving : (c.without caller n).serving = c.serving := rfl
  have hs : (c.without caller n).surroundings = c.surroundings := rfl
  rw [hserving]
  cases c.serving.lookup handler with
  | none => rfl
  | some m =>
    dsimp only
    rw [hs]
    cases (finalAnswer p.stack m result c.surroundings).1 with
    | none => rfl
    | some f =>
      have henqueue := enqueue_without (p := p)
        { c with
          serving := c.serving.filter (·.1 ≠ handler)
          surroundings := (finalAnswer p.stack m result c.surroundings).2 } caller n .answer f
      dsimp only
      unfold without at henqueue ⊢
      rw [henqueue]
      cases enqueue _ p .answer f <;> rfl

/-! ## Starting and stopping -/

theorem start_without (h : Separate c.calls caller n) :
    (c.without caller n).start p = (c.start p).without caller n := by
  unfold start
  have hloop : (c.without caller n).loop = c.loop := rfl
  have hshut : (c.without caller n).shut = c.shut := rfl
  rw [hloop, hshut]
  split
  · rfl
  · cases p.side with
    | server =>
      dsimp only
      split <;> rfl
    | client =>
      dsimp only
      split
      · exact failHandshake_without (c := { c with phase := .connecting }) h _
      · cases noticeFrame .greeting with
        | error cause => exact failHandshake_without (c := { c with phase := .connecting }) h _
        | ok f =>
          have henqueue := enqueue_without (p := p) { c with phase := .connecting } caller n
            .greeting f
          dsimp only
          unfold without at henqueue ⊢
          rw [henqueue]
          cases enqueue _ p .greeting f with
          | error cause => exact failHandshake_without (c := { c with phase := .connecting }) h _
          | ok queued => rfl

theorem timeOutHandshake_without (h : Separate c.calls caller n) (waited : Span) :
    (c.without caller n).timeOutHandshake waited =
      (c.timeOutHandshake waited).without caller n := by
  unfold timeOutHandshake
  have hloop : (c.without caller n).loop = c.loop := rfl
  rw [hloop]
  cases c.loop with
  | greeting | greeted => exact failHandshake_without h _
  | _ => rfl

theorem stop_without (h : Separate c.calls caller n) :
    (c.without caller n).stop p = (c.stop p).without caller n := by
  unfold stop
  have hphase : (c.without caller n).phase = c.phase := rfl
  rw [hphase]
  split
  · cases noticeFrame .close with
    | error cause => exact teardown_without h
    | ok f =>
      dsimp only
      rw [enqueue_without]
      cases c.enqueue p .farewell f with
      | error cause => exact teardown_without h
      | ok queued => rfl
  · exact teardown_without h

/-! ## Calls -/

theorem call_without (hne : other ≠ caller) (expects : Bool) (context : CallContext)
    (moment : Moment) (method : String) (payload : Bytes) :
    (c.without caller n).call other expects context moment method payload =
      (c.call other expects context moment method payload).without caller n := by
  unfold call
  have hphase : (c.without caller n).phase = c.phase := rfl
  rw [call?_without hne, hphase]
  split
  · rfl
  · cases gate c.phase expects context moment with
    | some cause => simp [Progress.without, Output.tells, hne]
    | none => simp [Progress.without, without, hne]

/-- The numbers of the side that has given the number of the call out. -/
structure Numbered (p : Profile σ) (c : Connection σ) (n : UInt64) : Prop where
  ofSide : CallTable.OfSide p.side n
  counts : CallTable.Counts p.side c.table.next

/-- A number for which no answer is awaited does not depend on the others. -/
theorem number_without_event (hx : k.expectsAnswer = false) :
    (c.without caller n).number other k = (c.number other k).without caller n := by
  unfold number
  simp only [hx, Bool.false_eq_true, if_false]
  exact congrArg (fun after : Connection σ => ((after, []) : Progress σ))
    (setStage_without (c := { c with table := c.table.allocate.2 }) other _)

/-- Another call gets the number that it would get, unless this is the one that has become free. -/
theorem number_without (h : Separate c.calls caller n) (hne : other ≠ caller) (hn : Numbered p c n)
    (hk : c.call? other = some k) (hs : k.stage = .admitted)
    (hdraws : ∀ x ∈ (c.without caller n).draws (.advance other), x.1 ≠ n) :
    (c.without caller n).number other k = (c.number other k).without caller n ∧
      (c.without caller n).draws (.advance other) = c.draws (.advance other) := by
  have hk' : (c.without caller n).call? other = some k := (call?_without hne).trans hk
  simp only [draws, hk, hk', hs, if_true] at hdraws ⊢
  cases hx : k.expectsAnswer with
  | false => exact ⟨number_without_event hx, rfl⟩
  | true =>
    unfold number
    have hclosed : (c.without caller n).table.closed = c.table.closed := rfl
    simp only [hx, if_true, hclosed] at hdraws ⊢
    cases hc : c.table.closed with
    | true =>
      simp only [CallTable.register, hclosed, hc, if_true]
      exact ⟨finish_without h hne _, trivial⟩
    | false =>
      simp only [hc, Bool.false_eq_true, if_false, List.mem_singleton, forall_eq] at hdraws ⊢
      obtain ⟨hsame, htable⟩ := CallTable.enter_remove hn.ofSide hn.counts hdraws
      have hnumber : (c.without caller n).table.enter.1 = c.table.enter.1 := hsame.symm
      have hentered : ({ c.without caller n with table := (c.without caller n).table.enter.2 } :
          Connection σ) = ({ c with table := c.table.enter.2 } : Connection σ).without caller n := by
        unfold without
        simp only [htable]
      simp only [CallTable.register, hclosed, hc, Bool.false_eq_true, if_false, hnumber, hentered,
        setStage_without]
      exact ⟨rfl, trivial⟩

theorem frame_without (h : Separate c.calls caller n) (hne : other ≠ caller) (m : UInt64) :
    (c.without caller n).frame p other k m = (c.frame p other k m).without caller n := by
  unfold frame
  have hs : (c.without caller n).surroundings = c.surroundings := rfl
  dsimp only
  rw [hs]
  generalize messageFrame p.stack m (if k.expectsAnswer then .request else .event) k.context.baggage
    (some k.method) k.payload c.surroundings = built
  cases built.1 with
  | error cause => exact finish_without (c := { c with surroundings := built.2 }) h hne _
  | ok f =>
    have henqueue := enqueue_without (p := p) { c with surroundings := built.2 } caller n
      (.call other m) f
    dsimp only
    unfold without at henqueue ⊢
    rw [henqueue]
    cases enqueue _ p (.call other m) f with
    | error cause => exact finish_without (c := { c with surroundings := built.2 }) h hne _
    | ok queued =>
      exact congrArg (fun after : Connection σ => ((after, []) : Progress σ))
        (setStage_without other _)

/-- The call itself, going on, is not seen. -/
theorem advance_without_self (h : Alone c.calls caller n) :
    (c.advance p caller).without caller n = (c.without caller n, []) := by
  unfold advance
  cases hk : c.call? caller with
  | none => rfl
  | some k =>
    have hstage := h.waits k (mem_of_lookup hk)
    dsimp only
    rw [hstage]
    cases k.inbox with
    | none => rfl
    | some reply =>
      cases reply with
      | ok payload => exact finish_without_self h.separate _
      | error cause => exact finish_without_self h.separate _

theorem expire_without (h : Separate c.calls caller n) (other : Nat) :
    (c.without caller n).expire other = (c.expire other).without caller n := by
  by_cases hother : other = caller
  · subst hother
    have hself : (c.without other n).expire other = (c.without other n, []) := by
      unfold expire
      rw [call?_without_self]
    rw [hself]
    unfold expire
    split
    · split
      · exact (finish_without_self h _).symm
      · rfl
    · rfl
  · unfold expire
    rw [call?_without hother]
    split
    · split
      · exact finish_without h hother _
      · rfl
    · rfl

theorem cancel_without (h : Separate c.calls caller n) (other : Nat) :
    (c.without caller n).cancel other = (c.cancel other).without caller n := by
  by_cases hother : other = caller
  · subst hother
    have hself : (c.without other n).cancel other = (c.without other n, []) := by
      unfold cancel
      rw [call?_without_self]
    rw [hself]
    unfold cancel
    split
    · split
      · exact (finish_without_self h _).symm
      · rfl
    · rfl
  · unfold cancel
    rw [call?_without hother]
    split
    · split
      · exact finish_without h hother _
      · rfl
    · rfl

end Connection

end Rpc
