import Rpc.Proofs.Connection.Withdrawal

/-! # Nobody sees a call leave

A call that waits for its answer may end early: its deadline passes, its token is cancelled, or its
caller goes away. Two runs are compared, one in which the call stays and one in which it leaves at
some moment, with the same events otherwise. At every later moment the second is the first without
the call, so nobody else can tell them apart, and an answer that comes to the call finds nobody.
-/
namespace Rpc

def Event.Joins (caller : Nat) : Event → Prop
  | .call other _ _ _ _ _ => other = caller
  | _ => False

namespace Connection

variable {σ : Type} {p : Profile σ} {c : Connection σ} {caller : Nat} {n : UInt64} {k : Call}
  {e : Event} {s : σ} {front back es : List Event}

/-! ## One step of both runs -/

/-- An event that gives out no number, and in which the call does not go on by itself. -/
theorem step_without_quiet (h : Separate c.calls caller n) (he : ¬ e.Joins caller)
    (hself : e ≠ .advance caller) (hquiet : c.draws e = []) :
    (c.without caller n).step p e = (c.step p e).without caller n ∧
      (c.without caller n).draws e = [] := by
  cases e with
  | start => exact ⟨start_without h, rfl⟩
  | call other expects context moment method payload => exact ⟨call_without he _ _ _ _ _, rfl⟩
  | advance other =>
    have hother : other ≠ caller := fun heq => hself (heq ▸ rfl)
    cases hk : c.call? other with
    | none => simp [step, advance, draws, call?_without hother, hk, Progress.without]
    | some k =>
      have hk' : (c.without caller n).call? other = some k := (call?_without hother).trans hk
      cases hs : k.stage with
      | admitted =>
        simp only [draws, hk, hs, if_true] at hquiet
        cases hx : k.expectsAnswer with
        | false => simp [hx] at hquiet
        | true =>
          cases hclosed : c.table.closed with
          | false => simp [hx, hclosed] at hquiet
          | true =>
            have hclosed' : (c.without caller n).table.closed = true := hclosed
            simp only [step, advance, draws, number, hk, hk', hs, hx, CallTable.register, hclosed,
              hclosed', if_true]
            exact ⟨finish_without h hother _, trivial⟩
      | numbered m =>
        simp only [step, advance, hk, hk', hs]
        refine ⟨frame_without h hother m, ?_⟩
        simp [draws, hk', hs]
      | writing m => simp [step, advance, draws, hk, hk', hs, Progress.without]
      | awaiting m =>
        simp only [step, advance, hk, hk', hs]
        refine ⟨?_, by simp [draws, hk', hs]⟩
        cases k.inbox with
        | none => rfl
        | some reply =>
          cases reply with
          | ok payload => exact finish_without h hother _
          | error cause => exact finish_without h hother _
  | expire other => exact ⟨expire_without h other, rfl⟩
  | cancel other => exact ⟨cancel_without h other, rfl⟩
  | abandon other =>
    refine ⟨?_, rfl⟩
    simp only [step, abandon, forget_without h]
    rfl
  | write w => exact ⟨write_without h w, rfl⟩
  | failWrite w fault => exact ⟨failWrite_without h w fault, rfl⟩
  | arrive incoming => exact ⟨arrive_without h incoming, rfl⟩
  | answer handler result => exact ⟨answer_without handler result, rfl⟩
  | handshakeTimeout waited => exact ⟨timeOutHandshake_without h waited, rfl⟩
  | stop => exact ⟨stop_without h, rfl⟩

theorem step_without (h : Alone c.calls caller n) (hn : Numbered p c n) (he : ¬ e.Joins caller)
    (hdraws : ∀ x ∈ (c.without caller n).draws e, x.1 ≠ n) :
    (c.without caller n).step p e = (c.step p e).without caller n ∧
      (c.without caller n).draws e = c.draws e := by
  by_cases hself : e = .advance caller
  · subst hself
    have hgone : (c.without caller n).advance p caller = (c.without caller n, []) := by
      unfold advance
      rw [call?_without_self]
    refine ⟨hgone.trans (advance_without_self h).symm, ?_⟩
    simp only [draws, call?_without_self]
    cases hk : c.call? caller with
    | none => rfl
    | some k => simp [h.waits k (mem_of_lookup hk)]
  · by_cases hquiet : c.draws e = []
    · obtain ⟨hstep, hsame⟩ := step_without_quiet (p := p) h.separate he hself hquiet
      exact ⟨hstep, hsame.trans hquiet.symm⟩
    · obtain ⟨m, k, other, rfl, hk, hs, -⟩ := draws_table (p := p) hquiet
      have hother : other ≠ caller := fun heq => hself (heq ▸ rfl)
      have hk' : (c.without caller n).call? other = some k := (call?_without hother).trans hk
      simp only [step, advance, hk, hk', hs]
      exact number_without h.separate hother hn hk hs hdraws

/-! ## The call while it waits -/

theorem number?_restage {stage : Stage} {m : UInt64} (hm : stage.number? = some m)
    (h : ({ k with stage } : Call).number? = some n) : m = n := by
  have hstage := Call.number?_of_stage h
  exact Option.some.inj (hm.symm.trans hstage)

/-- A call that waits for its answer goes on waiting or goes, and nobody else gets its number unless
it is given out again. -/
theorem alone_step (hc : (c.calls.map Prod.fst).Nodup) (h : Alone c.calls caller n)
    (he : ¬ e.Joins caller) (hdraws : ∀ x ∈ c.draws e, x.1 ≠ n) :
    Alone (c.step p e).1.calls caller n := by
  obtain ⟨calls, ended, hmoves, ⟨g, hg, hreceives⟩, -⟩ := calls_step (p := p) (c := c) e
  suffices hbase : Alone calls caller n by
    constructor
    · intro k hk
      rw [hg] at hk
      obtain ⟨x, hx, heq⟩ := List.mem_map.mp hk
      obtain ⟨rfl, rfl⟩ := Prod.mk.inj heq
      rw [(hreceives x.2).stage]
      exact hbase.waits x.2 hx
    · intro x hx hn
      rw [hg] at hx
      obtain ⟨y, hy, rfl⟩ := List.mem_map.mp hx
      rw [(hreceives y.2).number?] at hn
      exact hbase.only y hy hn
  have hfilter : ∀ other : Nat, Alone (c.calls.filter (·.1 ≠ other)) caller n := fun other =>
    ⟨fun k hk => h.waits k (List.mem_filter.mp hk).1,
      fun x hx => h.only x (List.mem_filter.mp hx).1⟩
  -- a call that is not waiting yet moves on, under a number that it has or gets
  have hrestage : ∀ {other : Nat} {k' : Call} {stage : Stage}, c.call? other = some k' →
      (∀ m, k'.stage ≠ .awaiting m) →
      (({ k' with stage } : Call).number? = some n → k'.number? = some n) →
      Alone (c.setStage other stage).calls caller n := by
    intro other k' stage hk' hnot hnumber
    have hself : ∀ k₀, (other, k₀) ∈ c.calls → k₀ = k' := fun k₀ hk₀ =>
      Option.some.inj ((lookup_of_mem hc hk₀).symm.trans hk')
    constructor
    · intro k hk
      rcases mem_setStage hk with hold | ⟨k₀, hk₀, heq⟩
      · exact h.waits k hold
      · obtain ⟨rfl, rfl⟩ := Prod.mk.inj heq
        have hwaits := h.waits k₀ hk₀
        rw [hself k₀ hk₀] at hwaits
        exact absurd hwaits (hnot n)
    · intro x hx hn
      rcases mem_setStage hx with hold | ⟨k₀, hk₀, rfl⟩
      · exact h.only x hold hn
      · rw [hself k₀ hk₀] at hn hk₀
        exact h.only (other, k') hk₀ (hnumber hn)
  cases hmoves with
  | stay | refused => exact h
  | @joined other expects context moment method payload hk =>
    constructor
    · intro k hmem
      rcases List.mem_append.mp hmem with hold | hnew
      · exact h.waits k hold
      · obtain ⟨rfl, -⟩ := Prod.mk.inj (List.mem_singleton.mp hnew)
        exact absurd rfl he
    · intro x hx hn
      rcases List.mem_append.mp hx with hold | hnew
      · exact h.only x hold hn
      · rw [List.mem_singleton.mp hnew] at hn
        cases expects <;> cases hn
  | numbered hk hs hdrawn =>
    refine hrestage hk (fun m => by simp [hs]) fun hn => ?_
    have heq := number?_restage (k := _) rfl hn
    exact absurd heq (hdraws _ (by rw [hdrawn]; exact List.mem_singleton_self _))
  | @queued other k' m f hk hs =>
    refine hrestage hk (fun m => by simp [hs]) fun hn => ?_
    rw [← hn]
    cases hx : k'.expectsAnswer <;> simp only [Call.number?, hs, hx]
  | @sent w other k' m f hw hshut hk hs =>
    refine hrestage hk (fun m => by simp [hs]) fun hn => ?_
    rw [← hn]
    cases hx : k'.expectsAnswer <;> simp only [Call.number?, hs, hx]
  | ended | abandoned => exact hfilter _

theorem expectsAnswer_step (hc : (c.calls.map Prod.fst).Nodup)
    (h : ∀ x ∈ c.calls, ∀ m, x.2.stage = .awaiting m → x.2.expectsAnswer) :
    ∀ x ∈ (c.step p e).1.calls, ∀ m, x.2.stage = .awaiting m → x.2.expectsAnswer := by
  obtain ⟨calls, ended, hmoves, ⟨g, hg, hreceives⟩, -⟩ := calls_step (p := p) (c := c) e
  suffices hbase : ∀ x ∈ calls, ∀ m, x.2.stage = .awaiting m → x.2.expectsAnswer by
    intro x hx m hm
    rw [hg] at hx
    obtain ⟨y, hy, rfl⟩ := List.mem_map.mp hx
    rw [(hreceives y.2).stage] at hm
    have hexpects := hbase y hy m hm
    rcases hreceives y.2 with hsame | ⟨_, _, -, -, -, hsame⟩ <;> rw [hsame] <;> exact hexpects
  cases hmoves with
  | stay | refused => exact h
  | joined =>
    intro x hx m hm
    rcases List.mem_append.mp hx with hold | hnew
    · exact h x hold m hm
    · rw [List.mem_singleton.mp hnew] at hm
      cases hm
  | numbered | queued =>
    intro x hx m hm
    rcases mem_setStage hx with hold | ⟨k₀, -, rfl⟩
    · exact h x hold m hm
    · cases hm
  | sent hw hshut hk hs hexpects =>
    intro x hx m hm
    rcases mem_setStage hx with hold | ⟨k₀, hk₀, rfl⟩
    · exact h x hold m hm
    · have hsame := Option.some.inj (hk.symm.trans (lookup_of_mem hc hk₀))
      rw [← hsame]
      exact hexpects
  | ended | abandoned => exact fun x hx => h x (List.mem_filter.mp hx).1

theorem expectsAnswer_run (s : σ) (es : List Event) : ∀ x ∈ (run p (.new p s) es).1.calls, ∀ m,
    x.2.stage = .awaiting m → x.2.expectsAnswer := by
  refine run_history (p := p) (c := .new p s) (I := fun _ c => ∀ x ∈ c.calls, ∀ m,
    x.2.stage = .awaiting m → x.2.expectsAnswer) ?_ ?_ es
  · intro x hx
    cases hx
  · intro front e h
    exact expectsAnswer_step (callers_run (p := p) s front) h

/-- All numbers that a run gives out are of its side. -/
theorem numbered_run (s : σ) (es : List Event) :
    CallTable.Counts p.side (run p (.new p s) es).1.table.next ∧
      ∀ m ∈ drawn p s es, CallTable.OfSide p.side m := by
  refine run_history (p := p) (c := .new p s) (I := fun es c =>
    CallTable.Counts p.side c.table.next ∧ ∀ m ∈ drawn p s es, CallTable.OfSide p.side m)
    ⟨rfl, fun m hm => by cases hm⟩ ?_ es
  intro front e ⟨hcounts, hdrawn⟩
  rw [drawn_concat]
  by_cases he : (run p (.new p s) front).1.draws e = []
  · rw [he, List.map_nil, List.append_nil, (step_table (p := p) he).next]
    exact ⟨hcounts, hdrawn⟩
  · obtain ⟨m, k, caller, -, -, -, hdraws, hm, hnext, -⟩ := draws_table (p := p) he
    have hside : CallTable.OfSide p.side m := by
      rcases hm with rfl | rfl
      · exact CallTable.ofSide_free _ _ hcounts
      · exact CallTable.ofSide_candidate hcounts
    rw [hdraws, hnext]
    refine ⟨CallTable.counts_add_two hside.2, ?_⟩
    intro m' hm'
    rcases List.mem_append.mp hm' with hold | hnew
    · exact hdrawn m' hold
    · rw [List.mem_singleton.mp hnew]
      exact hside

/-! ## Both runs -/

/-- A run without a call is the run with it, as far as it is seen without the call. -/
structure Follows (p : Profile σ) (c : Connection σ) (caller : Nat) (n : UInt64)
    (es : List Event) : Prop where
  alone : Alone (run p c es).1.calls caller n
  progress : run p (c.without caller n) es = (run p c es).without caller n
  numbers : trail p draws (c.without caller n) es = trail p draws c es

theorem Follows.concat (h : Follows p c caller n es)
    (hc : ((run p c es).1.calls.map Prod.fst).Nodup) (hn : Numbered p (run p c es).1 n)
    (he : ¬ e.Joins caller)
    (hdraws : n ∉ (trail p draws (c.without caller n) (es ++ [e])).map Prod.fst) :
    Follows p c caller n (es ++ [e]) := by
  have hstate : (run p (c.without caller n) es).1 = (run p c es).1.without caller n :=
    congrArg Prod.fst h.progress
  have houtputs : (run p (c.without caller n) es).2 =
      (run p c es).2.filter fun o => !o.tells caller := congrArg Prod.snd h.progress
  rw [trail_concat, List.map_append] at hdraws
  have hother : ∀ x ∈ ((run p c es).1.without caller n).draws e, x.1 ≠ n := by
    intro x hx heq
    refine hdraws (List.mem_append_right _ (List.mem_map.mpr ⟨x, ?_, heq⟩))
    rw [hstate]
    exact hx
  obtain ⟨hstep, hsame⟩ := step_without h.alone hn he hother
  constructor
  · rw [run_concat]
    exact alone_step hc h.alone he (hsame ▸ hother)
  · rw [run_append, run_append, run_singleton, run_singleton, hstate, hstep, houtputs]
    simp only [Progress.without, List.filter_append]
  · rw [trail_concat, trail_concat, h.numbers, hstate, hsame]

theorem forget_eq_without (h : Separate c.calls caller n) (hk : c.call? caller = some k)
    (hn : k.number? = some n) : c.forget caller = c.without caller n := by
  unfold forget
  rw [hk, Option.bind_some, hn]
  dsimp only
  by_cases hmem : n ∈ c.table.waiting
  · rw [resolve_of_mem { c with calls := c.calls.filter (·.1 ≠ caller) } _ n hmem]
    have hcalls := receive_own h (.error (.transport .connectionClosed))
    unfold without
    simp only [hcalls]
    rfl
  · rw [resolve_of_not_mem { c with calls := c.calls.filter (·.1 ≠ caller) } _ n hmem]
    have hwaiting : c.table.waiting.filter (· ≠ n) = c.table.waiting := by
      rw [List.filter_eq_self]
      intro m hm
      refine decide_eq_true ?_
      rintro rfl
      exact hmem hm
    unfold without CallTable.remove
    simp only [hwaiting]

/-! ## Leaving -/

/-- The ways in which a call ends early while it waits for its answer. -/
inductive Leaves (caller : Nat) (k : Call) : Event → Prop
  | expired {d : Instant} (hd : k.context.deadline = some d) : Leaves caller k (.expire caller)
  | cancelled {t : Token} (ht : k.context.token = some t) : Leaves caller k (.cancel caller)
  | abandoned : Leaves caller k (.abandon caller)

theorem leaves_step (hk : c.call? caller = some k) (hs : k.stage = .awaiting n)
    (h : Leaves caller k e) :
    (c.step p e).1 = c.forget caller ∧ ((c.step p e).2.filter fun o => !o.tells caller) = [] ∧
      c.draws e = [] := by
  cases h with
  | expired hd => simp [step, expire, hk, hs, hd, finish, Output.tells, draws]
  | cancelled ht => simp [step, cancel, hk, hs, ht, finish, Output.tells, draws]
  | abandoned => exact ⟨rfl, rfl, rfl⟩

/-- What a run that a call has left is, compared with the run in which it stays. -/
structure Unseen (p : Profile σ) (stays leaves : Progress σ) (caller : Nat) (n : UInt64) :
    Prop where
  /-- Endings of other calls, frames that are written, what handlers are given, and how the
  connection comes up and goes. -/
  outputs : (leaves.2.filter fun o => !o.tells caller) = stays.2.filter fun o => !o.tells caller
  phase : leaves.1.phase = stays.1.phase
  others : ∀ other, other ≠ caller → leaves.1.call? other = stays.1.call? other
  state : leaves.1 = stays.1.without caller n
  gone : leaves.1.call? caller = none
  removed : n ∉ leaves.1.table.waiting
  /-- An answer under the number of the call changes nothing but what the layers remember of it. -/
  discards : ∀ f reply, (react p.side p.stack f leaves.1.surroundings).1 = .complete n reply →
    leaves.1.accept p f =
      ({ leaves.1 with surroundings := (react p.side p.stack f leaves.1.surroundings).2 },
        [.received f.kind])

theorem unseen_of_without {stays leaves : Progress σ}
    (hstate : leaves.1 = stays.1.without caller n)
    (houtputs : (leaves.2.filter fun o => !o.tells caller) =
      stays.2.filter fun o => !o.tells caller) : Unseen p stays leaves caller n where
  outputs := houtputs
  phase := by rw [hstate]; rfl
  others other hne := by rw [hstate, call?_without hne]
  state := hstate
  gone := by rw [hstate, call?_without_self]
  removed := by
    rw [hstate]
    exact CallTable.not_mem_remove _ n
  discards f reply hreact := by
    have hnot : n ∉ leaves.1.table.waiting := by
      rw [hstate]
      exact CallTable.not_mem_remove _ n
    have hsame := resolve_of_not_mem
      { leaves.1 with surroundings := (react p.side p.stack f leaves.1.surroundings).2 } reply n hnot
    unfold accept
    dsimp only
    rw [hreact]
    simp only [follow, hsame]

/-- Nobody sees that a call leaves while it waits for its answer, whatever happens later. A caller's
name stands for one call, and the number of the call is given out once: the counter comes round after
`2 ^ 63 - 1` numbers, and then the one that has become free is given to another call. -/
theorem unseen_of_leaves {leaving : Event}
    (hk : (run p (.new p s) front).1.call? caller = some k) (hs : k.stage = .awaiting n)
    (hleaves : Leaves caller k leaving) (hname : ∀ e ∈ back, ¬ e.Joins caller)
    (honce : (drawn p s (front ++ leaving :: back)).count n ≤ 1) :
    Unseen p (run p (.new p s) (front ++ back)) (run p (.new p s) (front ++ leaving :: back))
      caller n := by
  have hstage : k.stage.number? = some n := by rw [hs]; rfl
  have hkeys := callers_run (p := p) s front
  have hnumber : k.number? = some n := by
    have hexpects : k.expectsAnswer = true :=
      expectsAnswer_run (p := p) s front _ (mem_of_lookup hk) n hs
    simp only [Call.number?, hs, hexpects]
  obtain ⟨hleft, hquiet, hnodraw⟩ := leaves_step (p := p) hk hs hleaves
  have hdrawn : n ∈ drawn p s front := by
    obtain ⟨k₀, hk₀, -⟩ := (owns_run (p := p) s front _ (mem_of_lookup hk)).number n hstage
    exact List.mem_map.mpr ⟨_, hk₀, rfl⟩
  -- the number is given out before the call leaves, so not again
  have hsplit : drawn p s (front ++ leaving :: back) = drawn p s front ++
      (trail p draws ((run p (.new p s) front).1.step p leaving).1 back).map Prod.fst := by
    rw [drawn, trail_append, trail, hnodraw, List.nil_append, List.map_append, drawn]
  rw [hsplit, List.count_append] at honce
  have hbefore : (drawn p s front).count n ≤ 1 := by omega
  have halone : Alone (run p (.new p s) front).1.calls caller n := by
    constructor
    · intro k' hk'
      have hsame := Option.some.inj (hk.symm.trans (lookup_of_mem hkeys hk'))
      rw [← hsame]
      exact hs
    · intro x hx hn
      exact caller_unique s hbefore hk hstage (lookup_of_mem hkeys hx) (Call.number?_of_stage hn)
  rw [forget_eq_without halone.separate hk hnumber] at hleft
  rw [hleft] at honce
  have hagain : n ∉ (trail p draws ((run p (.new p s) front).1.without caller n) back).map
      Prod.fst := by
    have hpos := List.count_pos_iff.mpr hdrawn
    exact List.count_eq_zero.mp (by omega)
  have hfollows : ∀ mid, mid <+: back → Follows p (run p (.new p s) front).1 caller n mid := by
    refine run_history (c := (run p (.new p s) front).1) (p := p) (I := fun mid _ => mid <+: back →
      Follows p (run p (.new p s) front).1 caller n mid) (fun _ => ⟨halone, rfl, rfl⟩) ?_
    intro mid e ih hmid
    have hmem : e ∈ back := hmid.subset (List.mem_append_right _ (List.mem_singleton_self e))
    have hstate := (congrArg Prod.fst (run_append (p := p) (c := .new p s) front mid)).symm
    refine (ih ((List.prefix_append mid [e]).trans hmid)).concat ?_ ⟨?_, ?_⟩ (hname e hmem) ?_
    · rw [hstate]
      exact callers_run (p := p) s (front ++ mid)
    · exact (numbered_run s front).2 n hdrawn
    · rw [hstate]
      exact (numbered_run s (front ++ mid)).1
    · intro hn
      obtain ⟨rest, rfl⟩ := hmid
      rw [trail_append, List.map_append] at hagain
      exact hagain (List.mem_append_left _ hn)
  have hprogress := (hfollows back (List.prefix_refl back)).progress
  have hleaving : run p (run p (.new p s) front).1 (leaving :: back) =
      ((run p (run p (.new p s) front).1 back).1.without caller n,
        ((run p (.new p s) front).1.step p leaving).2 ++
          (run p (run p (.new p s) front).1 back).2.filter fun o => !o.tells caller) := by
    simp only [run, Progress.andThen]
    rw [hleft, hprogress]
    rfl
  refine unseen_of_without ?_ ?_
  · rw [run_append, run_append, hleaving]
  · rw [run_append, run_append, hleaving]
    simp only [List.filter_append, hquiet, List.nil_append, List.filter_filter, Bool.and_self]

/-- A server has asked its client something. -/
def askedOnce : List Event :=
  [.start, .call 0 true { deadline := some 9 } ⟨0, fun _ => false⟩ "" [1], .advance 0, .advance 0,
    .write 0]

/-- It asks again, and is answered twice, the first question before the second. -/
def askedAgain : List Event :=
  let answer n := Event.arrive (.frame (.message n .response none none [7]))
  [.call 1 true {} ⟨0, fun _ => false⟩ "" [2], .advance 1, .advance 1, .write 1, answer 2, answer 4,
    .advance 1]

def plainServer : Profile Unit := ⟨.server, 100, none, false⟩

theorem askedOnce_unseen :
    (∃ k, (run plainServer (.new plainServer ()) askedOnce).1.call? 0 = some k ∧
      k.stage = .awaiting 2 ∧ Leaves 0 k (.expire 0)) ∧
    (∀ e ∈ askedAgain, ¬ e.Joins 0) ∧
    (drawn plainServer () (askedOnce ++ .expire 0 :: askedAgain)).count 2 ≤ 1 ∧
    Unseen plainServer (run plainServer (.new plainServer ()) (askedOnce ++ askedAgain))
      (run plainServer (.new plainServer ()) (askedOnce ++ .expire 0 :: askedAgain)) 0 2 := by
  have hname : ∀ e ∈ askedAgain, ¬ e.Joins 0 := by
    simp [askedAgain, Event.Joins]
  have honce : (drawn plainServer () (askedOnce ++ .expire 0 :: askedAgain)).count 2 ≤ 1 := by
    decide +kernel
  have hleaves : ∀ k : Call, k.context.deadline = some 9 → Leaves 0 k (.expire 0) :=
    fun _ hd => .expired hd
  exact ⟨⟨_, rfl, rfl, hleaves _ rfl⟩, hname, honce,
    unseen_of_leaves rfl rfl (hleaves _ rfl) hname honce⟩

end Connection

end Rpc
