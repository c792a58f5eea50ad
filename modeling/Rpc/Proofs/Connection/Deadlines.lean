import Rpc.Proofs.Connection.Unseen

/-! # Deadlines of events

A request that comes too late is turned away at the door, and one that waits is given up when its
deadline passes. An event has a deadline too, but nothing looks at it: a run is the same run, with
the same outputs, when all deadlines of events are taken away. So the door treats requests and
events alike unless the connection is up and only the deadline of the event has passed.
-/
namespace Rpc

open Message

/-- A call without its deadline, if it is an event. -/
def Call.undated (k : Call) : Call :=
  if k.expectsAnswer then k else { k with context := { k.context with deadline := none } }

namespace Call

variable (k : Call)

@[simp] theorem undated_expectsAnswer : k.undated.expectsAnswer = k.expectsAnswer := by
  unfold undated
  split <;> rfl

@[simp] theorem undated_method : k.undated.method = k.method := by unfold undated; split <;> rfl

@[simp] theorem undated_payload : k.undated.payload = k.payload := by unfold undated; split <;> rfl

@[simp] theorem undated_stage : k.undated.stage = k.stage := by unfold undated; split <;> rfl

@[simp] theorem undated_inbox : k.undated.inbox = k.inbox := by unfold undated; split <;> rfl

@[simp] theorem undated_baggage : k.undated.context.baggage = k.context.baggage := by
  unfold undated
  split <;> rfl

@[simp] theorem undated_token : k.undated.context.token = k.context.token := by
  unfold undated
  split <;> rfl

@[simp] theorem undated_number? : k.undated.number? = k.number? := by
  unfold number?
  simp only [undated_expectsAnswer, undated_stage]

theorem undated_of_expectsAnswer (h : k.expectsAnswer = true) : k.undated = k := if_pos h

theorem undated_restage (stage : Stage) :
    ({ k with stage } : Call).undated = { k.undated with stage } := by
  unfold undated
  split <;> rfl

theorem receive_undated (under : UInt64 → Bool) (reply : Reply) :
    k.undated.receive under reply = (k.receive under reply).undated := by
  cases hx : k.expectsAnswer with
  | true =>
    have hk : k.undated = k := k.undated_of_expectsAnswer hx
    have hreceived : (k.receive under reply).expectsAnswer = true := by
      unfold receive
      split
      · split <;> exact hx
      · exact hx
    rw [hk, undated_of_expectsAnswer _ hreceived]
  | false =>
    -- an event has no number under which a reply could reach it
    have hnone : k.number? = none := by
      unfold number?
      rw [hx]
    have hnone' : k.undated.number? = none := k.undated_number?.trans hnone
    simp only [receive, hnone, hnone']

end Call

/-- An event of a connection in which an event of the peers comes without its deadline. -/
def Event.undated : Event → Event
  | .call caller false x m method payload =>
    .call caller false { x with deadline := none } m method payload
  | e => e

namespace Connection

variable {σ : Type} {p : Profile σ}

def undated (c : Connection σ) : Connection σ :=
  { c with calls := c.calls.map fun x => (x.1, x.2.undated) }

end Connection

def Progress.undated {σ : Type} (q : Progress σ) : Progress σ := (q.1.undated, q.2)

namespace Connection

variable {σ : Type} {p : Profile σ} {c : Connection σ} {caller : Nat} {k : Call}

theorem call?_undated (caller : Nat) :
    c.undated.call? caller = (c.call? caller).map Call.undated :=
  lookup_map Call.undated c.calls caller

theorem setStage_undated (caller : Nat) (stage : Stage) :
    c.undated.setStage caller stage = (c.setStage caller stage).undated := by
  unfold undated setStage
  simp only [List.map_map]
  congr 1
  refine List.map_congr_left fun x _ => ?_
  simp only [Function.comp_apply]
  split
  · exact congrArg (x.1, ·) (Call.undated_restage x.2 stage).symm
  · rfl

theorem deliver_undated (under : UInt64 → Bool) (reply : Reply) :
    c.undated.deliver under reply = (c.deliver under reply).undated := by
  unfold undated deliver
  simp only [List.map_map]
  congr 1
  refine List.map_congr_left fun x _ => ?_
  simp only [Function.comp_apply, Call.receive_undated]

theorem resolve_undated (n : UInt64) (reply : Reply) :
    c.undated.resolve n reply = (c.resolve n reply).undated := by
  have htable : c.undated.table = c.table := rfl
  unfold resolve
  rw [htable]
  dsimp only
  split
  · exact deliver_undated (c := { c with table := (c.table.remove n).2 }) _ reply
  · rfl

theorem forget_undated (caller : Nat) : c.undated.forget caller = (c.forget caller).undated := by
  have hcalls : c.undated.calls.filter (·.1 ≠ caller) =
      (c.calls.filter (·.1 ≠ caller)).map fun x => (x.1, x.2.undated) := by
    rw [undated, List.filter_map]
    rfl
  have hnumber : (c.undated.call? caller).bind Call.number? =
      (c.call? caller).bind Call.number? := by
    rw [call?_undated]
    cases c.call? caller with
    | none => rfl
    | some k => exact k.undated_number?
  unfold forget
  rw [hcalls, hnumber]
  cases (c.call? caller).bind Call.number? with
  | none => rfl
  | some n => exact resolve_undated (c := { c with calls := c.calls.filter (·.1 ≠ caller) }) n _

theorem finish_undated (caller : Nat) (ending : Ending) :
    c.undated.finish caller ending = (c.finish caller ending).undated := by
  unfold finish
  rw [forget_undated]
  rfl

theorem teardown_undated : c.undated.teardown = c.teardown.undated := by
  have hphase : c.undated.phase = c.phase := rfl
  have htable : c.undated.table = c.table := rfl
  unfold teardown
  rw [hphase, htable, deliver_undated]
  split <;> rfl

theorem leave_undated : c.undated.leave = c.leave.undated :=
  teardown_undated (c := { c with loop := .over })

theorem failHandshake_undated (e : TransportError) :
    c.undated.failHandshake e = (c.failHandshake e).undated := by
  unfold failHandshake
  rw [leave_undated]
  rfl

/-- A frame gets its writer whatever the calls are. -/
theorem enqueue_undated (purpose : Purpose) (f : Frame) :
    c.undated.enqueue p purpose f = (c.enqueue p purpose f).map undated := by
  unfold enqueue
  cases f.write p.limit <;> rfl

theorem andThen_undated {q : Progress σ} {g : Connection σ → Progress σ}
    (hg : ∀ c : Connection σ, g c.undated = (g c).undated) :
    q.undated.andThen g = (q.andThen g).undated := by
  unfold Progress.andThen
  simp only [Progress.undated, hg]

/-! ## Writers -/

theorem resume_undated (result : Except TransportError Unit) (purpose : Purpose) :
    c.undated.resume p result purpose = (c.resume p result purpose).undated := by
  cases purpose with
  | call caller n =>
    simp only [resume, call?_undated]
    cases c.call? caller with
    | none => rfl
    | some k =>
      simp only [Option.map_some, Call.undated_stage, Call.undated_expectsAnswer]
      split
      · cases result with
        | error e => exact finish_undated caller _
        | ok =>
          dsimp only
          split
          · rw [setStage_undated]
            rfl
          · exact finish_undated caller _
      · rfl
  | answer => rfl
  | greeting =>
    have hloop : c.undated.loop = c.loop := rfl
    simp only [resume, hloop]
    split
    · rfl
    · exact failHandshake_undated _
    · rfl
  | greetingBack =>
    cases result with
    | error e => exact leave_undated
    | ok => rfl
  | turnDown => rfl
  | violation => exact leave_undated
  | farewell => exact teardown_undated

theorem write_undated (w : Nat) : c.undated.write p w = (c.write p w).undated := by
  have hwriters : c.undated.writers = c.writers := rfl
  unfold write
  rw [hwriters]
  cases c.writers.lookup w with
  | none => rfl
  | some v =>
    have hresume := fun result => resume_undated (p := p) (c := c.dropWriter w) result v.purpose
    have hdrop : c.undated.dropWriter w = (c.dropWriter w).undated := rfl
    have hshut : (c.dropWriter w).undated.shut = (c.dropWriter w).shut := rfl
    simp only [hdrop, hshut, hresume]
    split <;> rfl

theorem failWrite_undated (w : Nat) (fault : IoFault) :
    c.undated.failWrite p w fault = (c.failWrite p w fault).undated := by
  have hwriters : c.undated.writers = c.writers := rfl
  unfold failWrite
  rw [hwriters]
  cases c.writers.lookup w with
  | none => rfl
  | some v =>
    have hdrop : c.undated.dropWriter w = (c.dropWriter w).undated := rfl
    have hshut : (c.dropWriter w).undated.shut = (c.dropWriter w).shut := rfl
    simp only [hdrop, hshut, teardown_undated]
    exact andThen_undated fun c => resume_undated _ _

/-! ## The receive loop -/

theorem say_undated (purpose : Purpose) (f : Except CodecError Frame)
    {otherwise : Connection σ → Progress σ}
    (h : ∀ c : Connection σ, otherwise c.undated = (otherwise c).undated) :
    c.undated.say p purpose f otherwise = (c.say p purpose f otherwise).undated := by
  cases f with
  | error e => exact h c
  | ok f =>
    simp only [say, enqueue_undated]
    cases c.enqueue p purpose f with
    | error e => exact h c
    | ok c' => rfl

theorem violate_undated (code : UInt32) (details : String) :
    c.undated.violate p code details = (c.violate p code details).undated := by
  unfold violate
  rw [say_undated .violation _ fun _ => leave_undated]
  rfl

theorem follow_undated (r : Reaction) : c.undated.follow p r = (c.follow p r).undated := by
  cases r with
  | readOn => rfl
  | greetBack => exact say_undated .greetingBack (noticeFrame .greeting) fun _ => leave_undated
  | violation code details => exact violate_undated code details
  | leave => exact leave_undated
  | serve n d => rfl
  | notify d => rfl
  | turnDown n fault =>
    have hstate : c.undated.surroundings = c.surroundings := rfl
    simp only [follow, hstate]
    generalize finalAnswer p.stack n (.error fault) c.surroundings = built
    cases built.1 with
    | none => rfl
    | some f =>
      have hstay : ∀ c : Connection σ, ((c.undated, []) : Progress σ) = Progress.undated (c, []) :=
        fun _ => rfl
      exact say_undated (c := { c with surroundings := built.2 }) .turnDown (.ok f) hstay
  | complete n reply =>
    simp only [follow, resolve_undated]
    rfl

theorem accept_undated (f : Frame) : c.undated.accept p f = (c.accept p f).undated := by
  have hstate : c.undated.surroundings = c.surroundings := rfl
  have hfollow := follow_undated (p := p)
    (c := { c with surroundings := (react p.side p.stack f c.surroundings).2 })
    (react p.side p.stack f c.surroundings).1
  unfold accept
  rw [hstate]
  exact congrArg (fun q : Progress σ => (q.1, .received f.kind :: q.2)) hfollow

theorem greet_undated (incoming : Incoming) :
    c.undated.greet p incoming = (c.greet p incoming).undated := by
  cases incoming with
  | frame f =>
    simp only [greet]
    cases expectGreeting f with
    | ok => rfl
    | error e =>
      simp only [failHandshake_undated]
      rfl
  | malformed e => exact failHandshake_undated _
  | broken fault => exact failHandshake_undated _
  | ended => exact failHandshake_undated _

theorem arrive_undated (incoming : Incoming) :
    c.undated.arrive p incoming = (c.arrive p incoming).undated := by
  have hloop : c.undated.loop = c.loop := rfl
  unfold arrive
  rw [hloop]
  cases c.loop with
  | greeted => exact greet_undated incoming
  | reading =>
    cases incoming with
    | frame f => exact accept_undated f
    | malformed e => exact violate_undated _ _
    | broken fault => exact leave_undated
    | ended => exact leave_undated
  | _ => rfl

theorem answer_undated (handler : Nat) (result : Except Fault Bytes) :
    c.undated.answer p handler result = (c.answer p handler result).undated := by
  have hserving : c.undated.serving = c.serving := rfl
  have hstate : c.undated.surroundings = c.surroundings := rfl
  unfold answer
  rw [hserving]
  cases c.serving.lookup handler with
  | none => rfl
  | some n =>
    simp only [hstate]
    cases (finalAnswer p.stack n result c.surroundings).1 with
    | none => rfl
    | some f =>
      have henqueue := enqueue_undated (p := p) (c := { c with
        serving := c.serving.filter (·.1 ≠ handler)
        surroundings := (finalAnswer p.stack n result c.surroundings).2 }) .answer f
      simp only [undated] at henqueue ⊢
      rw [henqueue]
      cases enqueue _ p .answer f <;> rfl

/-! ## The application -/

theorem start_undated : c.undated.start p = (c.start p).undated := by
  have hloop : c.undated.loop = c.loop := rfl
  have hshut : c.undated.shut = c.shut := rfl
  have hfail := fun e => failHandshake_undated (c := { c with phase := .connecting }) e
  unfold start
  rw [hloop, hshut]
  split
  · rfl
  · cases p.side with
    | server => dsimp only; split <;> rfl
    | client =>
      dsimp only
      split
      · exact hfail _
      · cases noticeFrame .greeting with
        | error e => exact hfail _
        | ok f =>
          have henqueue := enqueue_undated (p := p) (c := { c with phase := .connecting })
            .greeting f
          simp only [undated] at henqueue ⊢
          rw [henqueue]
          cases enqueue { c with phase := .connecting } p .greeting f with
          | error e => exact hfail _
          | ok c' => rfl

theorem timeOutHandshake_undated (waited : Span) :
    c.undated.timeOutHandshake waited = (c.timeOutHandshake waited).undated := by
  have hloop : c.undated.loop = c.loop := rfl
  unfold timeOutHandshake
  rw [hloop]
  split
  · exact failHandshake_undated _
  · exact failHandshake_undated _
  · rfl

theorem stop_undated : c.undated.stop p = (c.stop p).undated := by
  have hphase : c.undated.phase = c.phase := rfl
  unfold stop
  rw [hphase]
  split
  · cases noticeFrame .close with
    | error e => exact teardown_undated
    | ok f =>
      simp only [enqueue_undated]
      cases c.enqueue p .farewell f with
      | error e => exact teardown_undated
      | ok c' => rfl
  · exact teardown_undated

/-! ## Calls -/

theorem gate_of_event (phase : Phase) (x : CallContext) (deadline : Option Instant) (m : Moment) :
    gate phase false { x with deadline } m = gate phase false x m := rfl

/-- At the door nobody looks at the deadline of an event. -/
theorem call_undated (caller : Nat) (expects : Bool) (x : CallContext) (m : Moment)
    (method : String) (payload : Bytes) :
    c.undated.step p (Event.undated (.call caller expects x m method payload)) =
      (c.call caller expects x m method payload).undated := by
  have hphase : c.undated.phase = c.phase := rfl
  have hknown : (c.undated.call? caller).isSome = (c.call? caller).isSome := by
    rw [call?_undated, Option.isSome_map]
  cases expects with
  | true =>
    simp only [Event.undated, step, call, hknown, hphase]
    split
    · rfl
    · cases gate c.phase true x m with
      | some cause => rfl
      | none =>
        simp only [undated, Progress.undated, List.map_append]
        rfl
  | false =>
    simp only [Event.undated, step, call, hknown, hphase, gate_of_event]
    split
    · rfl
    · cases gate c.phase false x m with
      | some cause => rfl
      | none =>
        simp only [undated, Progress.undated, List.map_append]
        rfl

theorem number_undated (caller : Nat) (k : Call) :
    c.undated.number caller k.undated = (c.number caller k).undated := by
  have htable : c.undated.table = c.table := rfl
  simp only [number, htable, Call.undated_expectsAnswer]
  split
  · cases c.table.register.1 with
    | error e => exact finish_undated (c := { c with table := c.table.register.2 }) caller _
    | ok n =>
      have hstage := setStage_undated (c := { c with table := c.table.register.2 }) caller
        (.numbered n)
      exact congrArg (·, []) hstage
  · have hstage := setStage_undated (c := { c with table := c.table.allocate.2 }) caller
      (.numbered c.table.allocate.1)
    exact congrArg (·, []) hstage

theorem frame_undated (caller : Nat) (k : Call) (n : UInt64) :
    c.undated.frame p caller k.undated n = (c.frame p caller k n).undated := by
  have hstate : c.undated.surroundings = c.surroundings := rfl
  simp only [frame, hstate, Call.undated_expectsAnswer, Call.undated_baggage, Call.undated_method,
    Call.undated_payload]
  generalize messageFrame p.stack n _ k.context.baggage (some k.method) k.payload
    c.surroundings = built
  cases built.1 with
  | error e => exact finish_undated (c := { c with surroundings := built.2 }) caller _
  | ok f =>
    have henqueue := enqueue_undated (p := p) (c := { c with surroundings := built.2 })
      (.call caller n) f
    simp only [undated] at henqueue ⊢
    rw [henqueue]
    cases enqueue { c with surroundings := built.2 } p (.call caller n) f with
    | error e => exact finish_undated (c := { c with surroundings := built.2 }) caller _
    | ok c' => exact congrArg (·, []) (setStage_undated (c := c') caller _)

theorem advance_undated (caller : Nat) :
    c.undated.advance p caller = (c.advance p caller).undated := by
  simp only [advance, call?_undated]
  cases c.call? caller with
  | none => rfl
  | some k =>
    simp only [Option.map_some, Call.undated_stage, Call.undated_inbox]
    cases k.stage with
    | admitted => exact number_undated caller k
    | numbered n => exact frame_undated caller k n
    | writing n => rfl
    | awaiting n =>
      cases k.inbox with
      | none => rfl
      | some reply =>
        cases reply with
        | ok payload => exact finish_undated caller _
        | error e => exact finish_undated caller _

/-- Only a call that waits for its answer can run out of time, and no event does. -/
theorem expire_undated
    (h : ∀ x ∈ c.calls, ∀ n, x.2.stage = .awaiting n → x.2.expectsAnswer = true) (caller : Nat) :
    c.undated.expire caller = (c.expire caller).undated := by
  simp only [expire, call?_undated]
  cases hk : c.call? caller with
  | none => rfl
  | some k =>
    cases hs : k.stage with
    | awaiting n =>
      have hsame := k.undated_of_expectsAnswer (h _ (mem_of_lookup hk) n hs)
      simp only [Option.map_some, hsame, hs]
      cases k.context.deadline with
      | none => rfl
      | some d => exact finish_undated caller _
    | _ =>
      simp only [Option.map_some, Call.undated_stage, hs]
      rfl

theorem cancel_undated (caller : Nat) : c.undated.cancel caller = (c.cancel caller).undated := by
  simp only [cancel, call?_undated]
  cases c.call? caller with
  | none => rfl
  | some k =>
    simp only [Option.map_some, Call.undated_stage, Call.undated_token]
    split
    · exact finish_undated caller _
    · rfl

/-! ## Runs -/

theorem step_undated
    (h : ∀ x ∈ c.calls, ∀ n, x.2.stage = .awaiting n → x.2.expectsAnswer = true) (e : Event) :
    c.undated.step p e.undated = (c.step p e).undated := by
  cases e with
  | start => exact start_undated
  | call caller expects x m method payload => exact call_undated caller expects x m method payload
  | advance caller => exact advance_undated caller
  | expire caller => exact expire_undated h caller
  | cancel caller => exact cancel_undated caller
  | abandon caller => exact congrArg (·, []) (forget_undated caller)
  | write w => exact write_undated w
  | failWrite w fault => exact failWrite_undated w fault
  | arrive incoming => exact arrive_undated incoming
  | answer handler result => exact answer_undated handler result
  | handshakeTimeout waited => exact timeOutHandshake_undated waited
  | stop => exact stop_undated

theorem run_undated (hc : (c.calls.map Prod.fst).Nodup)
    (h : ∀ x ∈ c.calls, ∀ n, x.2.stage = .awaiting n → x.2.expectsAnswer = true)
    (es : List Event) : run p c.undated (es.map Event.undated) = (run p c es).undated := by
  induction es generalizing c with
  | nil => rfl
  | cons e es ih =>
    have hrest := ih (c := (c.step p e).1) (callers_step hc) (expectsAnswer_step hc h)
    rw [List.map_cons, run, step_undated h]
    exact congrArg (fun q : Progress σ => (q.1, (c.step p e).2 ++ q.2)) hrest

/-- Nobody can tell a run from one in which the events have other deadlines or none. -/
theorem outputs_of_undated (s : σ) (past : List Event) {es fs : List Event}
    (h : es.map Event.undated = fs.map Event.undated) :
    (run p (run p (.new p s) past).1 es).2 = (run p (run p (.new p s) past).1 fs).2 := by
  have hrun := run_undated (p := p) (callers_run s past) (expectsAnswer_run (p := p) s past)
  have hes := congrArg Prod.snd (hrun es)
  have hfs := congrArg Prod.snd (hrun fs)
  rw [h] at hes
  exact hes.symm.trans hfs

end Connection

end Rpc
