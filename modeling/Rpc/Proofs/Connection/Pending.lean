import Rpc.Proofs.Connection.Owners
import Rpc.Proofs.Connection.Stream

/-! # What becomes of a waiting call

A call that has its number gets one reply: the first that is taken in under the number, or, if the
connection closes before, the one that says so. On a quiet connection it ends with this reply once
its frame is out.
-/
namespace Rpc

open Message

/-- What stays of a call under its number. -/
structure Call.Later (n : UInt64) (k k' : Call) : Prop where
  brought : k'.brought = k.brought
  number : k'.number? = some n
  awaiting : k.stage = .awaiting n → k'.stage = .awaiting n

namespace Call

variable {k k' k'' : Call} {n m : UInt64}

theorem Later.refl (h : k.number? = some n) : k.Later n k := ⟨rfl, h, id⟩

theorem Later.trans (h : k.Later n k') (h' : k'.Later n k'') : k.Later n k'' :=
  ⟨h'.brought.trans h.brought, h'.number, fun hs => h'.awaiting (h.awaiting hs)⟩

/-- A call has its number through three stages. -/
theorem stage_of_number? (h : k.number? = some n) : k.expectsAnswer = true ∧
    (k.stage = .numbered n ∨ k.stage = .writing n ∨ k.stage = .awaiting n) := by
  unfold number? at h
  split at h
  · rename_i hx hs
    cases h
    exact ⟨hx, Or.inl hs⟩
  · rename_i hx hs
    cases h
    exact ⟨hx, Or.inr (Or.inl hs)⟩
  · rename_i hx hs
    cases h
    exact ⟨hx, Or.inr (Or.inr hs)⟩
  · cases h

theorem number?_of_writing (h : k.number? = some n) (hs : k.stage = .writing m) : m = n := by
  rcases (stage_of_number? h).2 with hs' | hs' | hs' <;> rw [hs] at hs' <;> cases hs'
  rfl

end Call

namespace Connection

variable {σ : Type} {p : Profile σ} {c : Connection σ}

section Step

variable {caller : Nat} {k : Call} {n : UInt64}

theorem later_setStage {caller' : Nat} {k₀ : Call} {stage : Stage}
    (hk : c.call? caller = some k) (hn : k.number? = some n) (hk₀ : c.call? caller' = some k₀)
    (hstage : k₀.number? = some n → k₀.Later n { k₀ with stage }) :
    ∃ k', (c.setStage caller' stage).call? caller = some k' ∧ k.Later n k' ∧
      k'.inbox = k.inbox := by
  rw [call?_setStage, hk]
  by_cases hc : caller = caller'
  · subst hc
    rw [hk] at hk₀
    cases hk₀
    exact ⟨{ k with stage }, by rw [Option.map_some, if_pos rfl], hstage hn, rfl⟩
  · exact ⟨k, by rw [Option.map_some, if_neg hc], .refl hn, rfl⟩

/-- In a quiet step a call with a number ends, or goes on, possibly with a reply. -/
theorem call_step {e : Event} (hquiet : e.isQuiet = true) (hk : c.call? caller = some k)
    (hn : k.number? = some n) :
    (∃ ending, (caller, k, ending) ∈ c.endings p e ∧ Ends c e caller k ending) ∨
    ∃ k', (c.step p e).1.call? caller = some k' ∧ k.Later n k' ∧
      (k'.inbox = k.inbox ∨ k.inbox = none ∧ ∃ reply, k'.inbox = some reply ∧
        Replies p c e (c.step p e).1 n reply) := by
  obtain ⟨calls, ended, hmoves, ⟨g, hg, hreceives⟩, hended⟩ := calls_step (p := p) (c := c) e
  have hstay : (∃ k₁, calls.lookup caller = some k₁ ∧ k.Later n k₁ ∧ k₁.inbox = k.inbox) →
      ∃ k', (c.step p e).1.call? caller = some k' ∧ k.Later n k' ∧
        (k'.inbox = k.inbox ∨ k.inbox = none ∧ ∃ reply, k'.inbox = some reply ∧
          Replies p c e (c.step p e).1 n reply) := by
    rintro ⟨k₁, hk₁, hlater, hi⟩
    refine ⟨g k₁, by rw [call?, hg, lookup_map, hk₁]; rfl, ?_⟩
    rcases hreceives k₁ with hsame | ⟨m, reply, hm, hempty, hreply, hg'⟩
    · rw [hsame]
      exact ⟨hlater, Or.inl hi⟩
    · obtain rfl : m = n := Option.some.inj (hm.symm.trans hlater.number)
      rw [hg']
      exact ⟨⟨hlater.brought, hlater.number, hlater.awaiting⟩,
        Or.inr ⟨hi.symm.trans hempty, reply, rfl, hreply⟩⟩
  cases hmoves with
  | stay he => exact Or.inr (hstay ⟨k, hk, .refl hn, rfl⟩)
  | refused hnew hc => exact Or.inr (hstay ⟨k, hk, .refl hn, rfl⟩)
  | joined hnew =>
    refine Or.inr (hstay ⟨k, ?_, .refl hn, rfl⟩)
    rw [List.lookup_append, show c.calls.lookup caller = some k from hk, Option.some_or]
  | numbered hk₀ hs hdraws =>
    refine Or.inr (hstay (later_setStage hk hn hk₀ fun hn₀ => ?_))
    rcases (Call.stage_of_number? hn₀).2 with hs' | hs' | hs' <;> rw [hs] at hs' <;> cases hs'
  | queued hk₀ hs hf =>
    refine Or.inr (hstay (later_setStage hk hn hk₀ fun hn₀ => ?_))
    obtain ⟨hx, hs' | hs' | hs'⟩ := Call.stage_of_number? hn₀ <;> rw [hs] at hs' <;> cases hs'
    exact ⟨rfl, by simp only [Call.number?, hx], fun ha => by rw [hs] at ha; cases ha⟩
  | sent hw hshut hk₀ hs hx =>
    refine Or.inr (hstay (later_setStage hk hn hk₀ fun hn₀ => ?_))
    obtain rfl := Call.number?_of_writing hn₀ hs
    exact ⟨rfl, by simp only [Call.number?, hx], fun _ => rfl⟩
  | ended hk₀ he =>
    rename_i caller' k₀ ending
    by_cases hc : caller = caller'
    · subst hc
      rw [hk] at hk₀
      cases hk₀
      refine Or.inl ⟨ending, ?_, he⟩
      rw [endings, Connection.ended, hended]
      simp [hk]
    · exact Or.inr (hstay ⟨k, (lookup_filter_ne hc c.calls).trans hk, .refl hn, rfl⟩)
  | abandoned => cases hquiet

/-- How a call with a number ends that nobody gives up. -/
theorem Ends.quiet {e : Event} {ending : Ending} (h : Ends c e caller k ending)
    (hquiet : e.isQuiet = true) (hn : k.number? = some n) :
    (k.stage = .awaiting n → ∃ reply, k.inbox = some reply ∧ ending = .ofReply reply) ∧
      (k.stage = .writing n → ending = .ofReply closedReply) := by
  obtain ⟨hx, -⟩ := Call.stage_of_number? hn
  cases h with
  | answered hs hi =>
    refine ⟨fun _ => ⟨_, hi, rfl⟩, fun hw => ?_⟩
    rw [hs] at hw
    cases hw
  | unnumbered hs =>
    refine ⟨fun hw => ?_, fun hw => ?_⟩
    · rw [hs] at hw
      cases hw
    · rw [hs] at hw
      cases hw
  | unframed hs hc =>
    refine ⟨fun hw => ?_, fun hw => ?_⟩
    · rw [hs] at hw
      cases hw
    · rw [hs] at hw
      cases hw
  | sent hs hx' =>
    rw [hx] at hx'
    cases hx'
  | shutOut hs hshut =>
    refine ⟨fun hw => ?_, fun _ => rfl⟩
    rw [hs] at hw
    cases hw
  | expired hs => cases hquiet
  | cancelled hs => cases hquiet
  | unwritten hs => cases hquiet

/-! ## One step of a call that has no reply -/

theorem complete_step {e : Event} {f : Frame} {reply : Reply}
    (h : (f, Reaction.complete n reply) ∈ c.takes p e) :
    ∃ s, (c.step p e).1 = ({ c with surroundings := s } : Connection σ).resolve n reply := by
  rcases takes_cases (p := p) (c := c) e with htakes | ⟨f', rfl, hl, htakes⟩
  · rw [htakes] at h
    cases h
  · rw [htakes, List.mem_singleton, Prod.mk.injEq] at h
    obtain ⟨-, hr⟩ := h
    refine ⟨(react p.side p.stack f' c.surroundings).2, ?_⟩
    simp only [step, arrive, hl, accept, ← hr, follow]

theorem not_mem_resolve (reply : Reply) : n ∉ (c.resolve n reply).table.waiting := by
  by_cases hn : n ∈ c.table.waiting
  · rw [resolve_of_mem c reply n hn]
    simp
  · rwa [resolve_of_not_mem c reply n hn]

end Step

end Connection

/-- The first reply to a number among those that frames bring. -/
def Frame.replyTo? {σ : Type} (stack : Option (Stack σ)) (n : UInt64) (met : List (Frame × σ)) :
    Option Reply :=
  (met.filterMap (Frame.reply? stack)).lookup n

namespace Connection

variable {σ : Type} {p : Profile σ} {c : Connection σ} {n : UInt64}

theorem replyTo?_meets {e : Event} {reply : Reply} :
    Frame.replyTo? p.stack n (c.meets p e) = some reply ↔
      ∃ f, (f, Reaction.complete n reply) ∈ c.takes p e := by
  rw [Frame.replyTo?, ← (takes_gives e).2.2]
  rcases takes_cases (p := p) (c := c) e with htakes | ⟨f, -, -, htakes⟩
  · simp [htakes]
  · rw [htakes]
    generalize (react p.side p.stack f c.surroundings).1 = r
    constructor
    · intro h
      cases r with
      | complete m reply' =>
        by_cases hm : n = m
        · subst hm
          simp only [List.filterMap_cons, List.filterMap_nil, Reaction.reply?,
            List.lookup_cons_self, Option.some.injEq] at h
          exact ⟨f, by rw [h]; exact List.mem_singleton_self _⟩
        · have hne : (n == m) = false := beq_eq_false_iff_ne.mpr hm
          simp [Reaction.reply?, List.lookup_cons, hne] at h
      | _ => cases h
    · rintro ⟨f', h⟩
      obtain ⟨-, rfl⟩ := Prod.mk.inj (List.mem_singleton.mp h)
      exact List.lookup_cons_self

/-- In a quiet step a call with a number that no other call has ends, or goes on. Then it gets the
reply that is taken in under its number, and otherwise one only if the stream is shut. -/
theorem open_step {e : Event} {caller : Nat} {k : Call} (ht : c.Tabled)
    (hquiet : e.isQuiet = true) (hone : ∀ caller' k', c.call? caller' = some k' →
      k'.number? = some n → caller' = caller)
    (hk : c.call? caller = some k) (hn : k.number? = some n) (hi : k.inbox = none) :
    (∃ ending, (caller, k, ending) ∈ c.endings p e ∧ Ends c e caller k ending) ∨
    ∃ k', (c.step p e).1.call? caller = some k' ∧ k.Later n k' ∧
      (k'.inbox = Frame.replyTo? p.stack n (c.meets p e) ∨
        k'.inbox = some closedReply ∧ Frame.replyTo? p.stack n (c.meets p e) = none ∧
          (c.step p e).1.shut = true) := by
  have hmem : n ∈ c.table.waiting := ht.waiting caller k n hk hn hi
  have hopen : c.shut = false := by
    cases hshut : c.shut with
    | false => rfl
    | true =>
      rw [ht.empty (ht.closed hshut)] at hmem
      cases hmem
  rcases call_step (p := p) hquiet hk hn with hended | ⟨k', hk', hlater, hinbox⟩
  · exact Or.inl hended
  · refine Or.inr ⟨k', hk', hlater, ?_⟩
    rcases hinbox with hsame | ⟨-, reply, hreply, hreplies⟩
    · -- a reply under the number would have taken it off the table
      left
      rw [hsame, hi, eq_comm, Option.eq_none_iff_forall_ne_some]
      intro reply hreply
      obtain ⟨f, hf⟩ := replyTo?_meets.mp hreply
      obtain ⟨s, hstep⟩ := complete_step hf
      have hwaiting := (tabled_step (p := p) (e := e) ht).waiting caller k' n hk' hlater.number
        (hsame.trans hi)
      rw [hstep] at hwaiting
      exact not_mem_resolve reply hwaiting
    · cases hreplies with
      | taken hf =>
        left
        rw [hreply, replyTo?_meets.mpr ⟨_, hf⟩]
      | shut hshut =>
        refine Or.inr
          ⟨hreply, Option.eq_none_iff_forall_ne_some.mpr fun reply' hreply' => ?_, hshut⟩
        obtain ⟨f, hf⟩ := replyTo?_meets.mp hreply'
        obtain ⟨s, hstep⟩ := complete_step hf
        rw [hstep, resolve_shut] at hshut
        rw [show c.shut = true from hshut] at hopen
        cases hopen
      | forsaken hk₀ hn₀ hgone =>
        rw [hone _ _ hk₀ hn₀, hk'] at hgone
        cases hgone

/-- A call has ended in a run on the record of its endings, once its frame was out with a given
reply, and otherwise because it could not be sent. -/
def EndedWith (p : Profile σ) (c : Connection σ) (es : List Event) (caller : Nat) (k : Call)
    (n : UInt64) (reply : Reply) : Prop :=
  ∃ k' ending, (caller, k', ending) ∈ trail p (endings p) c es ∧ k.Later n k' ∧
    (k'.stage = .awaiting n → ending = .ofReply reply) ∧
    (k'.stage = .writing n → ending = .ofReply closedReply)

theorem EndedWith.later (front : List Event) {back : List Event} {caller : Nat} {k k' : Call}
    {reply : Reply} (h : EndedWith p (run p c front).1 back caller k' n reply)
    (hlater : k.Later n k') :
    EndedWith p c (front ++ back) caller k n reply := by
  obtain ⟨k'', ending, hmem, hlater', hends⟩ := h
  refine ⟨k'', ending, ?_, hlater.trans hlater', hends⟩
  rw [trail_append]
  exact List.mem_append_right _ hmem

theorem answered_run {es : List Event} {caller : Nat} {k : Call} {reply : Reply}
    (hquiet : ∀ e ∈ es, e.isQuiet = true) (hk : c.call? caller = some k) (hn : k.number? = some n)
    (hi : k.inbox = some reply) :
    EndedWith p c es caller k n reply ∨
    ∃ k', (run p c es).1.call? caller = some k' ∧ k.Later n k' ∧ k'.inbox = some reply := by
  induction es generalizing c k with
  | nil => exact Or.inr ⟨k, hk, .refl hn, hi⟩
  | cons e es ih =>
    have hquiet' := hquiet e List.mem_cons_self
    rcases call_step (p := p) hquiet' hk hn with ⟨ending, hmem, hends⟩ | ⟨k', hk', hlater, hinbox⟩
    · obtain ⟨hawaiting, hwriting⟩ := hends.quiet hquiet' hn
      refine Or.inl ⟨k, ending, List.mem_append_left _ hmem, .refl hn, fun hs => ?_, hwriting⟩
      obtain ⟨reply', hi', rfl⟩ := hawaiting hs
      rw [hi] at hi'
      cases hi'
      rfl
    · have hi' : k'.inbox = some reply := by
        rcases hinbox with hsame | ⟨hempty, -⟩
        · exact hsame.trans hi
        · rw [hi] at hempty
          cases hempty
      rw [← run_singleton (p := p)] at hk'
      rcases ih (fun e he => hquiet e (List.mem_cons_of_mem _ he)) hk' hlater.number hi' with
        hended | ⟨k'', hk'', hlater', hi''⟩
      · exact Or.inl (hended.later [e] hlater)
      · rw [run_singleton] at hk''
        exact Or.inr ⟨k'', hk'', hlater.trans hlater', hi''⟩

end Connection

theorem Frame.replyTo?_append {σ : Type} (stack : Option (Stack σ)) (n : UInt64)
    (met met' : List (Frame × σ)) :
    Frame.replyTo? stack n (met ++ met') =
      (Frame.replyTo? stack n met).or (Frame.replyTo? stack n met') := by
  rw [replyTo?, List.filterMap_append, List.lookup_append]
  rfl

namespace Receiver

open Connection

variable {σ : Type} {p : Profile σ} {r : Receiver σ}

/-! ## A run of the receiver -/

theorem eventAt_cases {e : Event} (hquiet : e.isQuiet = true) :
    r.eventAt p e = [] ∨ ∃ x, r.eventAt p e = [x] ∧ x.isQuiet = true := by
  cases e with
  | feed chunk => exact Or.inl rfl
  | finish => exact Or.inl rfl
  | take =>
    rcases take_cases (p := p) (r := r) with ⟨hevent, -⟩ | ⟨piece, rest, htakes⟩
    · exact Or.inl hevent
    · exact Or.inr ⟨_, htakes.event, rfl⟩
  | own x =>
    cases x with
    | arrive incoming => exact Or.inl rfl
    | _ => exact Or.inr ⟨_, rfl, hquiet⟩

theorem eventsOf_quiet {es : List Event} (hquiet : ∀ e ∈ es, e.isQuiet = true) :
    ∀ x ∈ eventsOf p r es, x.isQuiet = true := by
  induction es generalizing r with
  | nil => exact fun x hx => absurd hx List.not_mem_nil
  | cons e es ih =>
    intro x hx
    rcases List.mem_append.mp hx with hx | hx
    · rcases eventAt_cases (p := p) (r := r) (hquiet e List.mem_cons_self) with
        hevent | ⟨y, hevent, hy⟩
      · rw [hevent] at hx
        cases hx
      · rw [hevent, List.mem_singleton] at hx
        rw [hx]
        exact hy
    · exact ih (fun e he => hquiet e (List.mem_cons_of_mem _ he)) x hx

theorem met_of_ended {es : List Event} (h : r.connection.Stands .ended)
    (hw : KeysBelow r.connection.writers r.connection.nextWriter)
    (hplain : r.connection.SpeaksPlainly) (hquiet : ∀ e ∈ es, e.isQuiet = true) :
    r.met p es = [] := by
  have hadmits : Admitted p r .ended es := fun _ _ hmem => absurd hmem List.not_mem_nil
  obtain ⟨mode', -, hframes, -⟩ := stands_run h hw hplain hquiet hadmits
  exact List.map_eq_nil_iff.mp (List.append_eq_nil_iff.mp hframes.symm).1

/-- What becomes of a call under its number to which a reply is due: it has ended with it, or it is
still there, and has this reply or none. -/
def Fares (p : Profile σ) (r : Receiver σ) (es : List Event) (caller : Nat) (k : Call)
    (n : UInt64) (reply : Reply) : Prop :=
  EndedWith p r.connection (eventsOf p r es) caller k n reply ∨
    ∃ k', (r.run p es).1.connection.call? caller = some k' ∧ k.Later n k' ∧
      (k'.inbox = none ∨ k'.inbox = some reply)

variable {s : σ} {past : List Rpc.Event} {e : Event} {es : List Event} {mode : Mode} {caller : Nat}
  {k k' : Call} {n : UInt64} {reply : Reply}

theorem Fares.cons (h : Fares p (r.step p e).1 es caller k' n reply) (hlater : k.Later n k') :
    Fares p r (e :: es) caller k n reply := by
  rcases h with hended | ⟨k'', hk'', hlater', hinbox⟩
  · rw [(step_eq e).1] at hended
    exact Or.inl (hended.later (r.eventAt p e) hlater)
  · exact Or.inr ⟨k'', hk'', hlater.trans hlater', hinbox⟩

theorem fares_of_replied (hquiet : ∀ e ∈ es, e.isQuiet = true)
    (hk : r.connection.call? caller = some k) (hn : k.number? = some n)
    (hi : k.inbox = some reply) : Fares p r es caller k n reply := by
  rcases answered_run (p := p) (eventsOf_quiet hquiet) hk hn hi with
    hended | ⟨k', hk', hlater, hi'⟩
  · exact Or.inl hended
  · rw [← (run_eq es).1] at hk'
    exact Or.inr ⟨k', hk', hlater, Or.inr hi'⟩

/-- A call without a reply that ends at once does so because its frame was not out. -/
theorem fares_of_ends {x : Rpc.Event} {ending : Ending} (hevent : r.eventAt p e = [x])
    (hx : x.isQuiet = true) (hn : k.number? = some n) (hi : k.inbox = none)
    (hmem : (caller, k, ending) ∈ r.connection.endings p x)
    (hends : Ends r.connection x caller k ending) : Fares p r (e :: es) caller k n reply := by
  obtain ⟨hawaiting, hwriting⟩ := hends.quiet hx hn
  refine Or.inl ⟨k, ending, ?_, .refl hn, fun hs => ?_, hwriting⟩
  · rw [eventsOf, hevent]
    exact List.mem_append_left _ hmem
  · obtain ⟨reply, hi', -⟩ := hawaiting hs
    rw [hi] at hi'
    cases hi'

/-- The reply of a call is the one that was found for it, and the one of a closed connection only if
none is found later either: the receive loop is over then, so nothing more is taken in. -/
theorem due_eq {found : Option Reply} (hr : r.connection = (Connection.run p (.new p s) past).1)
    (hmode : r.connection.Stands mode) (hquiet : ∀ e ∈ es, e.isQuiet = true)
    (h : some reply = found ∨ some reply = some closedReply ∧ found = none ∧
      r.connection.shut = true) :
    (found.or (Frame.replyTo? p.stack n (r.met p es))).getD closedReply = reply := by
  rcases h with rfl | ⟨hreply, rfl, hshut⟩
  · rfl
  · obtain rfl := hmode.ended_of_shut hshut
    have hw := writersBelow_run (p := p) s past
    have hplain := speaksPlainly_run (p := p) s past
    rw [← hr] at hw hplain
    rw [met_of_ended hmode hw hplain hquiet]
    exact (Option.some.inj hreply).symm

/-- `open_step` where the connection has come by a run that drew the number once. -/
theorem open_step_of_run {x : Rpc.Event}
    (hr : r.connection = (Connection.run p (.new p s) past).1)
    (honce : (drawn p s past).count n ≤ 1) (hx : x.isQuiet = true)
    (hk : r.connection.call? caller = some k) (hn : k.number? = some n) (hi : k.inbox = none) :
    (∃ ending, (caller, k, ending) ∈ r.connection.endings p x ∧
      Ends r.connection x caller k ending) ∨
    ∃ k', (r.connection.step p x).1.call? caller = some k' ∧ k.Later n k' ∧
      (k'.inbox = Frame.replyTo? p.stack n (r.connection.meets p x) ∨
        k'.inbox = some closedReply ∧ Frame.replyTo? p.stack n (r.connection.meets p x) = none ∧
          (r.connection.step p x).1.shut = true) := by
  have htabled : r.connection.Tabled := by
    rw [hr]
    exact tabled_run s past
  refine open_step htabled hx (fun caller' k' hk' hn' => ?_) hk hn hi
  rw [hr] at hk hk'
  exact caller_unique s honce hk (Call.number?_of_stage hn) hk' (Call.number?_of_stage hn')

/-- A call that has no reply gets the first one under its number among those that are taken in, or,
if there is none, the one that says that the connection is closed. -/
theorem open_run (hr : r.connection = (Connection.run p (.new p s) past).1)
    (honce : (drawn p s (past ++ eventsOf p r es)).count n ≤ 1)
    (hmode : r.connection.Stands mode) (hquiet : ∀ e ∈ es, e.isQuiet = true)
    (hadmits : Admitted p r mode es) (hk : r.connection.call? caller = some k)
    (hn : k.number? = some n) (hi : k.inbox = none) :
    Fares p r es caller k n ((Frame.replyTo? p.stack n (r.met p es)).getD closedReply) := by
  induction es generalizing r past mode k with
  | nil => exact Or.inr ⟨k, hk, .refl hn, Or.inl hi⟩
  | cons e es ih =>
    have hw := writersBelow_run (p := p) s past
    have hplain := speaksPlainly_run (p := p) s past
    rw [← hr] at hw hplain
    have hquiet' : ∀ e ∈ es, e.isQuiet = true := fun e he => hquiet e (List.mem_cons_of_mem _ he)
    obtain ⟨mid, hmid, -, hcomplaints⟩ :=
      goesOn hmode hw hplain (hquiet e List.mem_cons_self) hadmits
    have hstate := (step_eq (p := p) (r := r) e).1
    have hr' : (r.step p e).1.connection =
        (Connection.run p (.new p s) (past ++ r.eventAt p e)).1 := by
      rw [hstate, hr, Connection.run_append]
    have honce' := honce
    rw [eventsOf, ← List.append_assoc] at honce'
    have hrest := fun {k : Call} => ih (k := k) hr' honce' hmid hquiet' (hadmits.tail hcomplaints)
    rw [met_cons, Frame.replyTo?_append, met_singleton]
    rcases eventAt_cases (p := p) (r := r) (hquiet e List.mem_cons_self) with
      hevent | ⟨x, hevent, hx⟩
    · rw [hevent] at hstate ⊢
      exact (hrest (hstate ▸ hk) hn hi).cons (.refl hn)
    · have hpast : (drawn p s past).count n ≤ 1 := by
        rw [drawn, trail_append, List.map_append, List.count_append] at honce
        rw [drawn]
        omega
      rw [hevent, Connection.run_singleton] at hstate
      rw [hevent, trail_singleton]
      rcases open_step_of_run (p := p) hr hpast hx hk hn hi with
        ⟨ending, hmem, hends⟩ | ⟨k', hk', hlater, hinbox⟩
      · exact fares_of_ends hevent hx hn hi hmem hends
      · rw [← hstate] at hk' hinbox
        refine Fares.cons ?_ hlater
        cases hi' : k'.inbox with
        | none =>
          have hnone : Frame.replyTo? p.stack n (r.connection.meets p x) = none := by
            rcases hinbox with h | ⟨-, h, -⟩
            · exact h.symm.trans hi'
            · exact h
          rw [hnone, Option.none_or]
          exact hrest hk' hlater.number hi'
        | some reply =>
          rw [hi'] at hinbox
          rw [due_eq hr' hmid hquiet' hinbox]
          exact fares_of_replied hquiet' hk' hlater.number hi'

end Receiver

end Rpc
