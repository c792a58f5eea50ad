import Rpc.Proofs.Call.Numbers
import Rpc.Proofs.Connection.Calls

/-! # The numbers of calls

A step gives out one number at most, and every number that waits on the table was given out before.
As long as the counter does not come round, each number is greater than those before it, so no
number is given out twice. A number stays on the table until its call has a reply.
-/
namespace Rpc.Connection

open Message

variable {σ : Type} {p : Profile σ} {c : Connection σ}

/-- The calls that a table has to know of are on it, and a table that is closed knows of none. -/
structure Tabled (c : Connection σ) : Prop where
  waiting : ∀ caller k n, c.call? caller = some k → k.number? = some n → k.inbox = none →
    n ∈ c.table.waiting
  closed : c.shut = true → c.table.closed = true
  empty : c.table.closed = true → c.table.waiting = []

/-- The table gives out no number, no number comes onto it, and it keeps those of calls that have no
reply. -/
structure TableShrinks (c after : Connection σ) : Prop where
  next : after.table.next = c.table.next
  waiting : ∀ n ∈ after.table.waiting, n ∈ c.table.waiting
  tabled : c.Tabled → after.Tabled

/-- Calls that change in other ways are none of the table's business. -/
theorem tableShrinks_of_calls {after : Connection σ} (h : after.table = c.table)
    (hshut : after.shut = c.shut) (hcalls : ∀ caller k n, after.call? caller = some k →
      k.number? = some n → k.inbox = none →
        ∃ k', c.call? caller = some k' ∧ k'.number? = some n ∧ k'.inbox = none) :
    TableShrinks c after where
  next := by rw [h]
  waiting n hn := by rwa [h] at hn
  tabled ht := by
    refine ⟨fun caller k n hk hn hi => ?_, by rw [h, hshut]; exact ht.closed,
      by rw [h]; exact ht.empty⟩
    obtain ⟨k', hk', hn', hi'⟩ := hcalls caller k n hk hn hi
    rw [h]
    exact ht.waiting caller k' n hk' hn' hi'

theorem tableShrinks_refl {after : Connection σ} (h : after.table = c.table)
    (hshut : after.shut = c.shut) (hcalls : after.calls = c.calls) : TableShrinks c after :=
  tableShrinks_of_calls h hshut fun caller k n hk hn hi => ⟨k, by rwa [call?, hcalls] at hk, hn, hi⟩

theorem TableShrinks.trans {mid after : Connection σ} (h : TableShrinks c mid)
    (h' : TableShrinks mid after) : TableShrinks c after where
  next := h'.next.trans h.next
  waiting n hn := h.waiting n (h'.waiting n hn)
  tabled ht := h'.tabled (h.tabled ht)

/-- A call that has none of the replies handed out was not under their numbers. -/
theorem call?_of_receive {under : UInt64 → Bool} {reply : Reply} {caller : Nat} {k : Call}
    {n : UInt64} {after : Connection σ}
    (hafter : after.calls = c.calls.map fun e => (e.1, e.2.receive under reply))
    (hk : after.call? caller = some k) (hn : k.number? = some n) (hi : k.inbox = none) :
    c.call? caller = some k ∧ under n = false := by
  rw [call?, hafter, lookup_map] at hk
  obtain ⟨k', hlookup, hreceive⟩ := Option.map_eq_some_iff.mp hk
  unfold Call.receive at hreceive
  split at hreceive
  · split at hreceive
    · rw [← hreceive] at hi
      cases hi
    · rename_i m _ hm _ hunder
      subst hreceive
      rw [hm] at hn
      cases hn
      exact ⟨hlookup, by simpa using hunder⟩
  · rename_i hother
    subst hreceive
    exact absurd hi (hother n hn)

theorem resolve_table (n : UInt64) (reply : Reply) : TableShrinks c (c.resolve n reply) := by
  by_cases hn : n ∈ c.table.waiting
  · rw [resolve_of_mem c reply n hn]
    refine ⟨rfl, fun m hm => (List.mem_filter.mp hm).1, fun ht => ⟨?_, ht.closed, fun hc => ?_⟩⟩
    · intro caller k m hk hm hi
      obtain ⟨hk', hne⟩ := call?_of_receive rfl hk hm hi
      exact List.mem_filter.mpr ⟨ht.waiting caller k m hk' hm hi, by simpa using hne⟩
    · rw [ht.empty hc] at hn
      cases hn
  · rw [resolve_of_not_mem c reply n hn]
    exact tableShrinks_refl rfl rfl rfl

theorem call?_filter {caller caller' : Nat} {k : Call} {after : Connection σ}
    (hafter : after.calls = c.calls.filter (·.1 ≠ caller)) (hk : after.call? caller' = some k) :
    caller' ≠ caller ∧ c.call? caller' = some k := by
  rw [call?, hafter] at hk
  have hne : caller' ≠ caller := by
    rintro rfl
    rw [lookup_filter_self] at hk
    cases hk
  rw [lookup_filter_ne hne] at hk
  exact ⟨hne, hk⟩

theorem forget_table (caller : Nat) : TableShrinks c (c.forget caller) := by
  have hrest : TableShrinks c { c with calls := c.calls.filter (·.1 ≠ caller) } :=
    tableShrinks_of_calls rfl rfl fun _ k _ hk hn hi => ⟨k, (call?_filter rfl hk).2, hn, hi⟩
  unfold forget
  simp only
  split
  · exact hrest.trans (resolve_table _ _)
  · exact hrest

theorem teardown_table : TableShrinks c c.teardown.1 := by
  unfold teardown
  split
  · exact tableShrinks_refl rfl rfl rfl
  · refine ⟨rfl, fun _ hn => absurd hn List.not_mem_nil, fun ht => ⟨?_, fun _ => rfl, fun _ => rfl⟩⟩
    intro caller k n hk hn hi
    obtain ⟨hk', hout⟩ := call?_of_receive rfl hk hn hi
    exact absurd (ht.waiting caller k n hk' hn hi) (of_decide_eq_false hout)

theorem leave_table : TableShrinks c c.leave.1 :=
  (tableShrinks_refl rfl rfl rfl : TableShrinks c { c with loop := .over }).trans teardown_table

theorem failHandshake_table (e : TransportError) : TableShrinks c (c.failHandshake e).1 :=
  leave_table

theorem enqueue_table {purpose : Purpose} {f : Frame} {c' : Connection σ}
    (h : c.enqueue p purpose f = .ok c') : TableShrinks c c' := by
  obtain ⟨-, rfl⟩ := enqueue_ok h
  exact tableShrinks_refl rfl rfl rfl

theorem call?_setStage (caller caller' : Nat) (stage : Stage) :
    (c.setStage caller stage).call? caller' =
      (c.call? caller').map fun k => if caller' = caller then { k with stage } else k := by
  have hcalls : (c.setStage caller stage).calls = c.calls.map fun e =>
      (e.1, if e.1 = caller then { e.2 with stage } else e.2) :=
    List.map_congr_left fun e _ => by split <;> rfl
  rw [call?, hcalls]
  exact lookup_map_key (fun key k => if key = caller then { k with stage } else k) c.calls caller'

/-- A call that moves on keeps its number. -/
theorem restage_table {caller : Nat} {k : Call} {stage : Stage} (hk : c.call? caller = some k)
    (hstage : ({ k with stage } : Call).number? = k.number?) :
    TableShrinks c (c.setStage caller stage) := by
  refine tableShrinks_of_calls rfl rfl fun caller' k' n hk' hn hi => ?_
  rw [call?_setStage] at hk'
  obtain ⟨k₀, hk₀, rfl⟩ := Option.map_eq_some_iff.mp hk'
  by_cases hc : caller' = caller
  · subst hc
    rw [hk] at hk₀
    cases hk₀
    rw [if_pos rfl] at hn hi
    exact ⟨k, hk, hstage ▸ hn, hi⟩
  · rw [if_neg hc] at hn hi
    exact ⟨k₀, hk₀, hn, hi⟩

theorem resume_table (result : Except TransportError Unit) (purpose : Purpose) :
    TableShrinks c (c.resume p result purpose).1 := by
  have h := resume_resumed p c result purpose
  generalize c.resume p result purpose = q at h ⊢
  cases h with
  | unchanged | greeted | reading => exact tableShrinks_refl rfl rfl rfl
  | awaiting hk hs hx => exact restage_table hk (by simp only [Call.number?, hs, hx])
  | finished caller => exact forget_table caller
  | failed _ e => exact failHandshake_table e
  | left => exact leave_table
  | tornDown => exact teardown_table

theorem say_table {purpose : Purpose} {f : Except CodecError Frame}
    {otherwise : Connection σ → Progress σ} (h : TableShrinks c (otherwise c).1) :
    TableShrinks c (c.say p purpose f otherwise).1 := by
  have hsaid := say_said p c purpose f otherwise
  generalize c.say p purpose f otherwise = q at hsaid ⊢
  cases hsaid with
  | otherwise => exact h
  | paused _ hq => exact (enqueue_table hq).trans (tableShrinks_refl rfl rfl rfl)

theorem violate_table (code : UInt32) (details : String) :
    TableShrinks c (c.violate p code details).1 := by
  have hleave : TableShrinks c (leave c).1 := leave_table
  exact say_table hleave

theorem follow_table (r : Reaction) : TableShrinks c (c.follow p r).1 := by
  cases r with
  | readOn => exact tableShrinks_refl rfl rfl rfl
  | greetBack => exact say_table leave_table
  | violation code details => exact violate_table code details
  | leave => exact leave_table
  | serve n d => exact tableShrinks_refl rfl rfl rfl
  | notify d => exact tableShrinks_refl rfl rfl rfl
  | turnDown n fault =>
    have hbuilt : TableShrinks c { c with surroundings :=
        (finalAnswer p.stack n (.error fault) c.surroundings).2 } := tableShrinks_refl rfl rfl rfl
    simp only [follow]
    split
    · exact hbuilt.trans (say_table (tableShrinks_refl rfl rfl rfl))
    · exact hbuilt
  | complete n reply => exact resolve_table n reply

theorem greet_table (incoming : Incoming) : TableShrinks c (c.greet p incoming).1 := by
  cases incoming with
  | frame f =>
    simp only [greet]
    cases expectGreeting f with
    | ok _ => exact tableShrinks_refl rfl rfl rfl
    | error e => exact failHandshake_table e
  | malformed e => exact failHandshake_table _
  | broken fault => exact failHandshake_table _
  | ended => exact failHandshake_table _

theorem arrive_table (incoming : Incoming) : TableShrinks c (c.arrive p incoming).1 := by
  unfold arrive
  cases c.loop with
  | greeted => exact greet_table incoming
  | reading =>
    cases incoming with
    | frame f =>
      have hreact : TableShrinks c { c with surroundings :=
          (react p.side p.stack f c.surroundings).2 } := tableShrinks_refl rfl rfl rfl
      exact hreact.trans (follow_table _)
    | malformed e => exact violate_table _ _
    | broken fault => exact leave_table
    | ended => exact leave_table
  | unstarted | greeting | paused | «over» => exact tableShrinks_refl rfl rfl rfl

/-- A call that joins has no number. -/
theorem join_table {caller : Nat} {k : Call} (hk : k.number? = none) :
    TableShrinks c { c with calls := c.calls ++ [(caller, k)] } := by
  refine tableShrinks_of_calls rfl rfl fun caller' k' n hk' hn hi => ⟨k', ?_, hn, hi⟩
  rw [call?, List.lookup_append] at hk'
  cases hold : c.calls.lookup caller' with
  | some k₀ =>
    rw [hold, Option.some_or] at hk'
    exact hold.trans hk'
  | none =>
    rw [hold, Option.none_or] at hk'
    have hnew := mem_of_lookup hk'
    rw [List.mem_singleton] at hnew
    cases hnew
    rw [hk] at hn
    cases hn

theorem start_table : TableShrinks c (c.start p).1 := by
  have hbegin : TableShrinks c { c with phase := .connecting } := tableShrinks_refl rfl rfl rfl
  have h := start_started p c
  generalize c.start p = q at h ⊢
  cases h with
  | unchanged | refused | up => exact tableShrinks_refl rfl rfl rfl
  | failed _ _ e => exact hbegin.trans (failHandshake_table e)
  | greeting _ _ _ _ hq =>
    exact (hbegin.trans (enqueue_table hq)).trans (tableShrinks_refl rfl rfl rfl)

theorem Called.table {caller : Nat} {q : Progress σ} (h : c.Called caller q) :
    TableShrinks c q.1 := by
  cases h with
  | unchanged | refused => exact tableShrinks_refl rfl rfl rfl
  | @joined k hk =>
    exact join_table (by cases hx : k.expectsAnswer <;> simp only [Call.number?, hk, hx])

/-- Only a call that has been admitted gets a number. -/
theorem advance_table {caller : Nat} (he : c.draws (.advance caller) = []) :
    TableShrinks c (c.advance p caller).1 := by
  have h := advance_advanced p c caller
  generalize c.advance p caller = q at h ⊢
  cases h with
  | unchanged => exact tableShrinks_refl rfl rfl rfl
  | unnumbered | answered => exact forget_table caller
  | @numbered k hk hs hopen =>
    simp only [draws, hk, hs, if_true] at he
    cases hx : k.expectsAnswer with
    | true => simp [hx, hopen hx] at he
    | false => simp [hx] at he
  | unframed s =>
    have hbuilt : TableShrinks c { c with surroundings := s } := tableShrinks_refl rfl rfl rfl
    exact hbuilt.trans (forget_table caller)
  | @framed k n s f after hk hs hf hq =>
    have hbuilt : TableShrinks c { c with surroundings := s } := tableShrinks_refl rfl rfl rfl
    refine (hbuilt.trans (enqueue_table hq)).trans (restage_table (k := k) ?_ ?_)
    · rwa [call?, enqueue_calls hq]
    · cases hx : k.expectsAnswer <;> simp only [Call.number?, hs, hx]

theorem GivenUp.table {caller : Nat} {q : Progress σ} (h : c.GivenUp caller q) :
    TableShrinks c q.1 := by
  cases h with
  | unchanged => exact tableShrinks_refl rfl rfl rfl
  | finished => exact forget_table caller

theorem write_table (w : Nat) : TableShrinks c (c.write p w).1 := by
  have hdrop : TableShrinks c (c.dropWriter w) := tableShrinks_refl rfl rfl rfl
  unfold write
  cases c.writers.lookup w with
  | none => exact tableShrinks_refl rfl rfl rfl
  | some v =>
    dsimp only
    split
    · exact hdrop.trans (resume_table _ _)
    · exact hdrop.trans (resume_table _ _)

theorem failWrite_table (w : Nat) (fault : IoFault) :
    TableShrinks c (c.failWrite p w fault).1 := by
  have hdrop : TableShrinks c (c.dropWriter w) := tableShrinks_refl rfl rfl rfl
  unfold failWrite
  cases c.writers.lookup w with
  | none => exact tableShrinks_refl rfl rfl rfl
  | some v => exact (hdrop.trans teardown_table).trans (resume_table _ _)

theorem answer_table (handler : Nat) (result : Except Fault Bytes) :
    TableShrinks c (c.answer p handler result).1 := by
  have h := answer_answered p c handler result
  generalize c.answer p handler result = q at h ⊢
  cases h with
  | unchanged | lost => exact tableShrinks_refl rfl rfl rfl
  | @queued n s f after hn hf hq =>
    have hbuilt : TableShrinks c { c with
        serving := c.serving.filter (·.1 ≠ handler), surroundings := s } :=
      tableShrinks_refl rfl rfl rfl
    exact hbuilt.trans (enqueue_table hq)

theorem timeOutHandshake_table (waited : Span) : TableShrinks c (c.timeOutHandshake waited).1 := by
  have h := timeOutHandshake_timedOut c waited
  generalize c.timeOutHandshake waited = q at h ⊢
  cases h with
  | unchanged => exact tableShrinks_refl rfl rfl rfl
  | failed _ e => exact failHandshake_table e

theorem stop_table : TableShrinks c (c.stop p).1 := by
  have h := stop_stopped p c
  generalize c.stop p = q at h ⊢
  cases h with
  | tornDown => exact teardown_table
  | farewell _ hq => exact enqueue_table hq

theorem step_table {e : Event} (he : c.draws e = []) : TableShrinks c (c.step p e).1 := by
  cases e with
  | start => exact start_table
  | call caller expects context moment method payload => exact (call_called c caller ..).table
  | advance caller => exact advance_table he
  | expire caller => exact (expire_givenUp c caller).table
  | cancel caller => exact (cancel_givenUp c caller).table
  | abandon caller => exact forget_table caller
  | write w => exact write_table w
  | failWrite w fault => exact failWrite_table w fault
  | arrive incoming => exact arrive_table incoming
  | answer handler result => exact answer_table handler result
  | handshakeTimeout waited => exact timeOutHandshake_table waited
  | stop => exact stop_table

/-- What giving out a number does to the table. -/
theorem draws_table {e : Event} (he : c.draws e ≠ []) : ∃ n k caller, e = .advance caller ∧
    c.call? caller = some k ∧ k.stage = .admitted ∧ c.draws e = [(n, k)] ∧
    (n = c.table.enter.1 ∨ n = c.table.allocate.1) ∧
    (c.step p e).1.table.next = n + 2 ∧
    ∀ m ∈ (c.step p e).1.table.waiting, m = n ∨ m ∈ c.table.waiting := by
  cases e with
  | advance caller =>
    cases hk : c.call? caller with
    | none => simp [draws, hk] at he
    | some k =>
      by_cases hs : k.stage = .admitted
      · cases hx : k.expectsAnswer with
        | true =>
          cases hclosed : c.table.closed with
          | true => simp [draws, hk, hs, hx, hclosed] at he
          | false =>
            refine ⟨c.table.enter.1, k, caller, rfl, hk, hs, ?_, Or.inl rfl, ?_, ?_⟩
            · simp [draws, hk, hs, hx, hclosed]
            · simp only [step, advance, hk, hs, number, hx, CallTable.register, hclosed, if_true,
                Bool.false_eq_true, if_false]
              rfl
            · simp only [step, advance, hk, hs, number, hx, CallTable.register, hclosed, if_true,
                Bool.false_eq_true, if_false]
              exact fun m hm => List.mem_cons.mp hm
        | false =>
          refine ⟨c.table.allocate.1, k, caller, rfl, hk, hs, ?_, Or.inr rfl, ?_, ?_⟩
          · simp [draws, hk, hs, hx]
          · simp only [step, advance, hk, hs, number, hx, Bool.false_eq_true, if_false]
            rfl
          · simp only [step, advance, hk, hs, number, hx, Bool.false_eq_true, if_false]
            exact fun m hm => Or.inr hm
      · simp [draws, hk, hs] at he
  | _ => exact absurd rfl he

/-- A call that is to be answered comes onto the table with its number. -/
theorem number_tabled {caller : Nat} {k : Call} (hk : c.call? caller = some k)
    (h : c.Tabled) : (c.number caller k).1.Tabled := by
  have hothers : ∀ (t : CallTable) (n : UInt64) {caller' : Nat} {k' : Call} {m : UInt64},
      ({ c with table := t }.setStage caller (.numbered n)).call? caller' = some k' →
      k'.number? = some m → k'.inbox = none →
      m ∈ c.table.waiting ∨ m = n ∧ k.expectsAnswer = true := by
    intro t n caller' k' m hk' hm hi
    rw [call?_setStage] at hk'
    obtain ⟨k₀, hk₀, rfl⟩ := Option.map_eq_some_iff.mp hk'
    by_cases hc : caller' = caller
    · subst hc
      rw [if_pos rfl] at hm
      obtain rfl : k = k₀ := Option.some.inj (hk.symm.trans hk₀)
      cases hx : k.expectsAnswer <;> simp [Call.number?, hx] at hm
      exact Or.inr ⟨hm.symm, rfl⟩
    · rw [if_neg hc] at hm hi
      exact Or.inl (h.waiting caller' k₀ m hk₀ hm hi)
  unfold number
  cases hx : k.expectsAnswer with
  | true =>
    cases hclosed : c.table.closed with
    | true =>
      simp only [CallTable.register, hclosed, if_true]
      exact (forget_table caller).tabled h
    | false =>
      simp only [CallTable.register, hclosed, if_true, Bool.false_eq_true, if_false]
      refine ⟨fun caller' k' m hk' hm hi => ?_, h.closed, fun hc => ?_⟩
      · rcases hothers _ _ hk' hm hi with hold | ⟨rfl, -⟩
        · exact List.mem_cons_of_mem _ hold
        · exact List.mem_cons_self
      · change c.table.closed = true at hc
        rw [hclosed] at hc
        cases hc
  | false =>
    simp only [Bool.false_eq_true, if_false]
    refine ⟨fun caller' k' m hk' hm hi => ?_, h.closed, h.empty⟩
    rcases hothers _ _ hk' hm hi with hold | ⟨-, hx'⟩
    · exact hold
    · rw [hx] at hx'
      cases hx'

theorem tabled_step {e : Event} (h : c.Tabled) : (c.step p e).1.Tabled := by
  by_cases he : c.draws e = []
  · exact (step_table he).tabled h
  · obtain ⟨n, k, caller, rfl, hk, hs, -⟩ := draws_table (p := p) he
    simp only [step, advance, hk, hs]
    exact number_tabled hk h

theorem tabled_run (s : σ) (es : List Event) : (run p (.new p s) es).1.Tabled :=
  have hnew : (Connection.new p s).Tabled := by
    refine ⟨fun _ _ _ hk => ?_, fun h => ?_, fun _ => rfl⟩
    · cases hk
    · cases h
  run_preserves (I := Tabled) (fun _ _ => tabled_step) hnew es

/-- Until the counter comes round, a step keeps the numbers in order. -/
theorem inOrder_step {drawn : List UInt64} (h : CallTable.InOrder p.side drawn c.table) (e : Event)
    (hmax : (drawn ++ (c.draws e).map Prod.fst).length < 9223372036854775807) :
    CallTable.InOrder p.side (drawn ++ (c.draws e).map Prod.fst) (c.step p e).1.table := by
  by_cases he : c.draws e = []
  · obtain ⟨hnext, hwaiting, -⟩ := step_table (p := p) he
    rw [he, List.map_nil, List.append_nil]
    exact h.shrink hnext hwaiting
  · obtain ⟨n, k, caller, -, -, -, hdraws, hn, hnext, hwaiting⟩ := draws_table (p := p) he
    rw [hdraws] at hmax ⊢
    rw [List.length_append] at hmax
    exact h.draw (h.number_eq hn) hnext hwaiting hmax

variable (p) in
/-- The numbers that a run gives out. -/
def drawn (s : σ) (es : List Event) : List UInt64 :=
  (trail p draws (.new p s) es).map Prod.fst

theorem drawn_concat (s : σ) (es : List Event) (e : Event) :
    drawn p s (es ++ [e]) =
      drawn p s es ++ ((run p (.new p s) es).1.draws e).map Prod.fst := by
  rw [drawn, trail_concat, List.map_append, drawn]

/-- Every number on the table was given out. -/
theorem waiting_run (s : σ) (es : List Event) :
    ∀ m ∈ (run p (.new p s) es).1.table.waiting, m ∈ drawn p s es := by
  refine run_history (p := p) (c := .new p s) (I := fun es c => ∀ m ∈ c.table.waiting,
    m ∈ drawn p s es) (fun m hm => absurd hm List.not_mem_nil) ?_ es
  intro front e ih m hm
  rw [drawn_concat, List.mem_append]
  by_cases he : (run p (.new p s) front).1.draws e = []
  · exact Or.inl (ih m ((step_table he).waiting m hm))
  · obtain ⟨n, k, caller, -, -, -, hdraws, -, -, hwaiting⟩ := draws_table (p := p) he
    rcases hwaiting m hm with rfl | hold
    · exact Or.inr (by simp [hdraws])
    · exact Or.inl (ih m hold)

/-- Until the counter comes round, the numbers are given out in order. -/
theorem inOrder_run (s : σ) (es : List Event)
    (hmax : (drawn p s es).length < 9223372036854775807) :
    CallTable.InOrder p.side (drawn p s es) (run p (.new p s) es).1.table := by
  refine run_history (p := p) (c := .new p s)
    (I := fun es c => (drawn p s es).length < 9223372036854775807 →
      CallTable.InOrder p.side (drawn p s es) c.table)
    (fun _ => CallTable.inOrder_new p.side) (fun front e ih hlen => ?_) es hmax
  rw [drawn_concat] at hlen ⊢
  have hfront : (drawn p s front).length < 9223372036854775807 := by
    rw [List.length_append] at hlen
    omega
  exact inOrder_step (ih hfront) e hlen

end Rpc.Connection
