import Rpc.Proofs.Connection.Unseen

/-! # The shadows of a call

A call whose frame has not gone to a writer is compared with no call at all: what happens to the
connection is the same, but numbers may be passed over and the layers may be shown a message that
nobody sends. Then every event with the call has its shadow without it, which leads to where the event
would lead if the caller went away.
-/
namespace Rpc

open Message

/-- What may happen to a connection on which a call is not made. -/
inductive Happening
  | event (e : Event)
  | skip
  /-- The layers are shown a message that nobody sends. -/
  | walk (kind : Kind) (baggage : Baggage)

namespace Happening

def event? : Happening → Option Event
  | event e => some e
  | skip | walk _ _ => none

def walk? : Happening → Option (Kind × Baggage)
  | walk kind baggage => some (kind, baggage)
  | event _ | skip => none

end Happening

/-- A caller goes on with its call, or goes away. -/
def Event.Of (caller : Nat) : Event → Prop
  | .advance other | .expire other | .cancel other | .abandon other => other = caller
  | _ => False

/-- The frame of the call has not been handed to a writer. -/
def Stage.isEarly : Stage → Bool
  | .admitted | .numbered _ => true
  | .writing _ | .awaiting _ => false

/-- Where a progress would be if a caller went away, and what the others see of it. -/
def Progress.leaving {σ : Type} (q : Progress σ) (caller : Nat) : Progress σ :=
  (q.1.forget caller, q.2.filter fun o => !o.tells caller)

namespace Connection

variable {σ : Type} {p : Profile σ} {c : Connection σ} {caller other : Nat} {n : UInt64} {k : Call}
  {e : Event} {s : σ} {front back es : List Event}

/-! ## Runs with more happenings -/

def happen (p : Profile σ) (c : Connection σ) : Happening → Progress σ
  | .event e => c.step p e
  | .skip => ({ c with table := c.table.allocate.2 }, [])
  | .walk kind baggage =>
    ({ c with surroundings := (packBaggage p.stack kind baggage c.surroundings).2 }, [])

def pass (p : Profile σ) (c : Connection σ) : List Happening → Progress σ
  | [] => (c, [])
  | h :: hs => (c.happen p h).andThen fun c => pass p c hs

theorem pass_append (hs gs : List Happening) :
    pass p c (hs ++ gs) =
      ((pass p (pass p c hs).1 gs).1, (pass p c hs).2 ++ (pass p (pass p c hs).1 gs).2) := by
  induction hs generalizing c with
  | nil => rfl
  | cons h hs ih => simp only [List.cons_append, pass, Progress.andThen, ih, List.append_assoc]

theorem pass_event (e : Event) : pass p c [.event e] = c.step p e := by
  simp [pass, happen, Progress.andThen]

theorem pass_events (es : List Event) : pass p c (es.map .event) = run p c es := by
  induction es generalizing c with
  | nil => rfl
  | cons e es ih => simp only [List.map_cons, pass, run, happen, Progress.andThen, ih]

theorem filterMap_skips {α : Type} {f : Happening → Option α} (h : f .skip = none) (j : Nat) :
    (List.replicate j .skip).filterMap f = [] := by
  rw [List.filterMap_eq_nil_iff]
  intro x hx
  rw [List.eq_of_mem_replicate hx]
  exact h

theorem pass_skips (j : Nat) :
    pass p c (List.replicate j .skip) = ({ c with table := c.table.passOver j }, []) := by
  induction j generalizing c with
  | zero => rfl
  | succ j ih =>
    simp only [List.replicate_succ, pass, happen, Progress.andThen, ih]
    rfl

/-! ## A caller that goes away -/

theorem forget_of_gone (hk : c.call? caller = none) : c.forget caller = c := by
  have hcalls : c.calls.filter (·.1 ≠ caller) = c.calls := by
    rw [List.filter_eq_self]
    intro x hx
    exact decide_eq_true (ne_of_lookup_eq_none hk hx)
  unfold forget
  simp only [hk, Option.bind_none, hcalls]

theorem forget_of_unnumbered (hk : c.call? caller = some k) (hn : k.number? = none) :
    c.forget caller = { c with calls := c.calls.filter (·.1 ≠ caller) } := by
  unfold forget
  simp only [hk, Option.bind_some, hn]

/-- Without a call its number is not on the table, and nothing else changes. -/
theorem forget_eq_without_key (h : Separate c.calls caller (k.number?.getD 0))
    (hk : c.call? caller = some k) (hzero : (0 : UInt64) ∉ c.table.waiting) :
    c.forget caller = c.without caller (k.number?.getD 0) := by
  cases hn : k.number? with
  | some n =>
    rw [hn] at h
    exact forget_eq_without h hk hn
  | none =>
    have hwaiting : c.table.waiting.filter (· ≠ 0) = c.table.waiting := by
      rw [List.filter_eq_self]
      intro m hm
      refine decide_eq_true ?_
      rintro rfl
      exact hzero hm
    rw [forget_of_unnumbered hk hn]
    unfold without CallTable.remove
    simp only [Option.getD_none, hwaiting]

theorem resolve_surroundings (c : Connection σ) (n : UInt64) (reply : Reply) (surroundings : σ) :
    ({ c with surroundings } : Connection σ).resolve n reply =
      { c.resolve n reply with surroundings } := by
  unfold resolve
  dsimp only
  split <;> rfl

theorem forget_surroundings (c : Connection σ) (caller : Nat) (surroundings : σ) :
    ({ c with surroundings } : Connection σ).forget caller =
      { c.forget caller with surroundings } := by
  have hcall : ({ c with surroundings } : Connection σ).call? caller = c.call? caller := rfl
  unfold forget
  rw [hcall]
  cases (c.call? caller).bind Call.number? with
  | none => rfl
  | some n => exact resolve_surroundings { c with calls := c.calls.filter (·.1 ≠ caller) } n _ _

theorem step_of_gone (hk : c.call? caller = none) (he : e.Of caller) : c.step p e = (c, []) := by
  cases e with
  | advance other => obtain rfl : other = caller := he; simp only [step, advance, hk]
  | expire other => obtain rfl : other = caller := he; simp only [step, expire, hk]
  | cancel other => obtain rfl : other = caller := he; simp only [step, cancel, hk]
  | abandon other =>
    obtain rfl : other = caller := he
    simp only [step, abandon, forget_of_gone hk]
  | _ => exact he.elim

/-- Nobody hears of a caller that has no call and comes with none. -/
theorem leaving_step_of_gone (hk : c.call? caller = none) (he : ¬ e.Joins caller) :
    (c.step p e).1.call? caller = none ∧ (c.step p e).leaving caller = c.step p e := by
  obtain ⟨calls, ended, hmoves, hcalls, hended⟩ := calls_step (p := p) (c := c) e
  have hbase : calls.lookup caller = none ∧ ∀ x ∈ ended, x.1 ≠ caller := by
    have hne : ∀ {other k'}, c.call? other = some k' → other ≠ caller := by
      rintro other k' hk' rfl
      rw [hk] at hk'
      cases hk'
    have hstage : ∀ other stage, (c.setStage other stage).calls.lookup caller = none :=
      fun other stage => (call?_setStage other caller stage).trans (by rw [hk]; rfl)
    cases hmoves with
    | stay => exact ⟨hk, by simp⟩
    | refused =>
      refine ⟨hk, ?_⟩
      intro x hx heq
      rw [List.mem_singleton.mp hx] at heq
      exact he heq
    | joined =>
      refine ⟨?_, by simp⟩
      rw [lookup_concat, if_neg fun heq => he heq.symm]
      exact (Option.or_none).trans hk
    | numbered | queued | sent => exact ⟨hstage _ _, by simp⟩
    | ended hk' =>
      refine ⟨(lookup_filter_ne (hne hk').symm c.calls).trans hk, ?_⟩
      simpa using hne hk'
    | @abandoned other =>
      refine ⟨?_, by simp⟩
      by_cases hother : other = caller
      · subst hother
        exact lookup_filter_self c.calls other
      · exact (lookup_filter_ne (Ne.symm hother) c.calls).trans hk
  obtain ⟨g, hg, -⟩ := hcalls
  have hgone : (c.step p e).1.call? caller = none := by
    rw [call?, hg, lookup_map, hbase.1]
    rfl
  refine ⟨hgone, ?_⟩
  have houtputs : (c.step p e).2.filter (fun o => !o.tells caller) = (c.step p e).2 := by
    rw [List.filter_eq_self]
    intro o ho
    cases o with
    | ended other ending =>
      have hmem : (other, ending) ∈ ended := by
        rw [← hended]
        exact List.mem_filterMap.mpr ⟨_, ho, rfl⟩
      simpa [Output.tells] using hbase.2 _ hmem
    | _ => rfl
  unfold Progress.leaving
  rw [forget_of_gone hgone, houtputs]

/-- A call is moved on by its caller only, unless its frame is being written. -/
theorem call?_step_of_not (hk : c.call? caller = some k) (hs : k.stage.isEarly)
    (he : ¬ e.Of caller) : ∃ k', (c.step p e).1.call? caller = some k' ∧ k'.stage = k.stage ∧
      k'.number? = k.number? ∧ k'.brought = k.brought := by
  obtain ⟨calls, ended, hmoves, ⟨g, hg, hreceives⟩, -⟩ := calls_step (p := p) (c := c) e
  have hbase : calls.lookup caller = some k := by
    have hstage : ∀ other stage, caller ≠ other →
        (c.setStage other stage).calls.lookup caller = some k := by
      intro other stage hne
      have hlookup := call?_setStage (c := c) other caller stage
      rw [hk, Option.map_some, if_neg hne] at hlookup
      exact hlookup
    have hsame : ∀ {k'}, c.call? caller = some k' → k'.stage.isEarly := by
      intro k' hk'
      rw [← Option.some.inj (hk.symm.trans hk')]
      exact hs
    cases hmoves with
    | stay | refused => exact hk
    | joined =>
      rw [lookup_concat]
      exact (congrArg (fun k => Option.or k _) hk).trans rfl
    | numbered | queued => exact hstage _ _ fun heq => he heq.symm
    | @sent w other k' m f hw hshut hk' hs' =>
      refine hstage _ _ ?_
      rintro rfl
      have hearly := hsame hk'
      rw [hs'] at hearly
      cases hearly
    | @ended _ other k' ending hk' hends =>
      refine (lookup_filter_ne ?_ c.calls).trans hk
      rintro rfl
      have hearly := hsame hk'
      cases hends with
      | answered | unnumbered | unframed | expired | cancelled => exact he rfl
      | sent hs' | shutOut hs' | unwritten hs' =>
        rw [hs'] at hearly
        cases hearly
    | abandoned => exact (lookup_filter_ne (fun heq => he heq.symm) c.calls).trans hk
  refine ⟨g k, ?_, (hreceives k).stage, (hreceives k).number?, ?_⟩
  · rw [call?, hg, lookup_map, hbase]
    rfl
  · rcases hreceives k with hsame | ⟨_, _, -, -, -, hsame⟩
    · rw [hsame]
    · rw [hsame]
      rfl

/-! ## One step of both runs -/

theorem filter_setStage_self (caller : Nat) (stage : Stage) :
    (c.setStage caller stage).calls.filter (·.1 ≠ caller) = c.calls.filter (·.1 ≠ caller) := by
  unfold setStage
  dsimp only
  induction c.calls with
  | nil => rfl
  | cons x calls ih =>
    rw [List.map_cons]
    by_cases hx : x.1 = caller
    · rw [if_pos hx, List.filter_cons_of_neg (by simpa using hx),
        List.filter_cons_of_neg (by simpa using hx), ih]
    · rw [if_neg hx, List.filter_cons_of_pos (by simpa using hx),
        List.filter_cons_of_pos (by simpa using hx), ih]

theorem leaving_finish (ending : Ending) :
    (c.finish caller ending).leaving caller = (c.forget caller, []) := by
  unfold finish Progress.leaving
  rw [forget_of_gone (call?_forget caller)]
  simp [Output.tells]

theorem pass_number (hk : c.call? caller = some k) (hs : k.stage = .admitted)
    (hafter : ∀ k', (c.number caller k).1.call? caller = some k' →
      (∀ x ∈ c.draws (.advance caller), x.1 ∉ c.table.waiting) ∧
        (c.number caller k).1.forget caller =
          (c.number caller k).1.without caller (k'.number?.getD 0)) :
    ∃ j, pass p (c.forget caller) (List.replicate j .skip) = (c.number caller k).leaving caller := by
  have hnone : k.number? = none := by
    unfold Call.number?
    rw [hs]
    cases k.expectsAnswer <;> rfl
  have hcall : ∀ (t : CallTable) (n : UInt64),
      ({ c with table := t }.setStage caller (.numbered n)).call? caller =
        some { k with stage := .numbered n } := by
    intro t n
    have hself : ({ c with table := t } : Connection σ).call? caller = some k := hk
    rw [call?_setStage, hself, Option.map_some, if_pos rfl]
  simp only [draws, hk, hs, if_true] at hafter
  unfold number at hafter ⊢
  rw [forget_of_unnumbered hk hnone]
  cases hx : k.expectsAnswer with
  | false =>
    simp only [Bool.false_eq_true, if_false]
    refine ⟨1, ?_⟩
    have hnumber : ({ k with stage := .numbered c.table.allocate.1 } : Call).number? = none := by
      simp only [Call.number?, hx]
    unfold Progress.leaving
    rw [forget_of_unnumbered (hcall _ _) hnumber, filter_setStage_self, pass_skips]
    rfl
  | true =>
    cases hclosed : c.table.closed with
    | true =>
      simp only [CallTable.register, hclosed, if_true, leaving_finish]
      exact ⟨0, by rw [forget_of_unnumbered hk hnone]; rfl⟩
    | false =>
      simp only [hx, hclosed, CallTable.register, if_true, Bool.false_eq_true, if_false,
        List.mem_singleton, forall_eq] at hafter ⊢
      obtain ⟨hnew, hforget⟩ := hafter _ (hcall _ _)
      obtain ⟨j, hj⟩ := CallTable.exists_passOver_eq hnew
      refine ⟨j, ?_⟩
      have hnumber : ({ k with stage := .numbered c.table.enter.1 } : Call).number? =
          some c.table.enter.1 := by simp only [Call.number?, hx]
      unfold Progress.leaving
      rw [hforget, pass_skips, hnumber, Option.getD_some]
      unfold without
      rw [filter_setStage_self, hj]
      rfl

theorem forget_surroundings_eq (caller : Nat) : (c.forget caller).surroundings = c.surroundings := by
  rw [forget_eq]

/-- If a call does not become a frame, only the layers have been shown its message. -/
theorem pass_frame (hnot : ∀ k' m, (c.frame p caller k n).1.call? caller = some k' →
      k'.stage ≠ .writing m) (hk : c.call? caller = some k) :
    pass p (c.forget caller) [.walk k.kind k.context.baggage] =
        (c.frame p caller k n).leaving caller ∧
      (c.frame p caller k n).1.call? caller = none := by
  have hshown : pass p (c.forget caller) [.walk k.kind k.context.baggage] =
      ({ c.forget caller with
        surroundings := (packBaggage p.stack k.kind k.context.baggage c.surroundings).2 }, []) := by
    simp only [pass, happen, Progress.andThen, forget_surroundings_eq, List.append_nil]
  have hgone := forget_surroundings c caller
    (packBaggage p.stack k.kind k.context.baggage c.surroundings).2
  have hended : ∀ cause, pass p (c.forget caller) [.walk k.kind k.context.baggage] =
      (({ c with
          surroundings := (packBaggage p.stack k.kind k.context.baggage c.surroundings).2 } :
        Connection σ).finish caller (.failed cause)).leaving caller := by
    intro cause
    rw [hshown, ← hgone, leaving_finish]
  unfold frame at hnot ⊢
  dsimp only at hnot ⊢
  split
  · exact ⟨hended _, call?_forget caller⟩
  · rename_i f hf
    split
    · exact ⟨hended _, call?_forget caller⟩
    · rename_i queued hq
      rw [hf] at hnot
      dsimp only at hnot
      rw [hq] at hnot
      dsimp only at hnot
      have hcalls := enqueue_calls hq
      have hcall : queued.call? caller = some k := by
        rw [call?, hcalls]
        exact hk
      refine absurd rfl (hnot { k with stage := .writing n } n ?_)
      rw [call?_setStage, hcall, Option.map_some, if_pos rfl]

/-- What happens without a call while an event happens with it. -/
structure Shadow (p : Profile σ) (c : Connection σ) (caller : Nat) (k : Call) (e : Event)
    (hs : List Happening) : Prop where
  events : hs.filterMap Happening.event? = [e]
  walks : hs.filterMap Happening.walk? = [] ∨
    hs.filterMap Happening.walk? = [(k.kind, k.context.baggage)] ∧
      (c.step p e).1.call? caller = none
  progress : pass p (c.forget caller) hs = (c.step p e).leaving caller

theorem shadow_own {hs : List Happening} (he : e.Of caller)
    (hevents : hs.filterMap Happening.event? = [])
    (hwalks : hs.filterMap Happening.walk? = [] ∨
      hs.filterMap Happening.walk? = [(k.kind, k.context.baggage)] ∧
        (c.step p e).1.call? caller = none)
    (hpass : pass p (c.forget caller) hs = (c.step p e).leaving caller) :
    Shadow p c caller k e (hs ++ [.event e]) where
  events := by
    rw [List.filterMap_append, hevents]
    rfl
  walks := by
    have hevent : [Happening.event e].filterMap Happening.walk? = [] := rfl
    rw [List.filterMap_append, hevent, List.append_nil]
    exact hwalks
  progress := by
    have hgone := step_of_gone (p := p) (call?_forget (c := (c.step p e).1) caller) he
    rw [pass_append, pass_event, hpass]
    unfold Progress.leaving
    dsimp only
    rw [hgone, List.append_nil]

theorem exists_shadow_own (hk : c.call? caller = some k) (hearly : k.stage.isEarly)
    (he : e.Of caller)
    (hnot : ∀ k' m, (c.step p e).1.call? caller = some k' → k'.stage ≠ .writing m)
    (hafter : ∀ k', (c.step p e).1.call? caller = some k' →
      (∀ x ∈ c.draws e, x.1 ∉ c.table.waiting) ∧
        (c.step p e).1.forget caller = (c.step p e).1.without caller (k'.number?.getD 0)) :
    ∃ hs, Shadow p c caller k e hs := by
  -- an event for which the call is not ready, or by which it leaves without a word
  have hidle : c.step p e = (c, []) ∨ c.step p e = (c.forget caller, []) →
      ∃ hs, Shadow p c caller k e hs := by
    intro hstep
    refine ⟨[] ++ [.event e], shadow_own he rfl (Or.inl rfl) ?_⟩
    rcases hstep with hstep | hstep
    · rw [hstep]
      rfl
    · rw [hstep]
      unfold Progress.leaving
      rw [forget_of_gone (call?_forget caller)]
      rfl
  cases e with
  | advance other =>
    obtain rfl : other = caller := he
    cases hs : k.stage with
    | admitted =>
      have hstep : c.step p (.advance other) = c.number other k := by
        simp only [step, advance, hk, hs]
      rw [hstep] at hafter
      obtain ⟨j, hj⟩ := pass_number (p := p) hk hs hafter
      exact ⟨_, shadow_own rfl (filterMap_skips rfl j) (Or.inl (filterMap_skips rfl j))
        (hj.trans (by rw [hstep]))⟩
    | numbered n =>
      have hstep : c.step p (.advance other) = c.frame p other k n := by
        simp only [step, advance, hk, hs]
      rw [hstep] at hnot
      obtain ⟨hshown, hgone⟩ := pass_frame hnot hk
      refine ⟨_, shadow_own rfl rfl (Or.inr ⟨rfl, ?_⟩) (hshown.trans (by rw [hstep]))⟩
      rw [hstep]
      exact hgone
    | writing m | awaiting m =>
      rw [hs] at hearly
      cases hearly
  | expire other =>
    obtain rfl : other = caller := he
    refine hidle (Or.inl ?_)
    cases hs : k.stage with
    | admitted | numbered m => simp only [step, expire, hk, hs]
    | writing m | awaiting m =>
      rw [hs] at hearly
      cases hearly
  | cancel other =>
    obtain rfl : other = caller := he
    refine hidle (Or.inl ?_)
    cases hs : k.stage with
    | admitted | numbered m => simp only [step, cancel, hk, hs]
    | writing m | awaiting m =>
      rw [hs] at hearly
      cases hearly
  | abandon other =>
    obtain rfl : other = caller := he
    exact hidle (Or.inr rfl)
  | _ => exact he.elim

theorem leaving_eq_without {q : Progress σ} (h : q.1.forget caller = q.1.without caller n) :
    q.leaving caller = q.without caller n := by
  unfold Progress.leaving Progress.without
  rw [h]

/-- Others come to the same without the call, if they pass over the numbers that it kept them from. -/
theorem exists_shadow_other (hj : ¬ e.Joins caller) (he : ¬ e.Of caller)
    (hseparate : Separate c.calls caller n)
    (hbefore : c.forget caller = c.without caller n)
    (hafter : (c.step p e).1.forget caller = (c.step p e).1.without caller n)
    (hnew : ∀ x ∈ c.draws e, x.1 ∉ c.table.waiting ∧ x.1 ≠ n) :
    ∃ hs, Shadow p c caller k e hs := by
  have hself : e ≠ .advance caller := by
    rintro rfl
    exact he rfl
  have hplain : (c.without caller n).step p e = (c.step p e).without caller n →
      ∃ hs, Shadow p c caller k e hs := fun hstep =>
    ⟨[.event e], rfl, Or.inl rfl, by rw [pass_event, hbefore, hstep, leaving_eq_without hafter]⟩
  by_cases hquiet : c.draws e = []
  · exact hplain (step_without_quiet hseparate hj hself hquiet).1
  · obtain ⟨m, k', other, rfl, hk', hs', hdraws, -⟩ := draws_table (p := p) hquiet
    have hother : other ≠ caller := fun heq => hself (heq ▸ rfl)
    have hcall : (c.without caller n).call? other = some k' := (call?_without hother).trans hk'
    cases hx : k'.expectsAnswer with
    | false =>
      refine hplain ?_
      simp only [step, advance, hk', hcall, hs']
      exact number_without_event hx
    | true =>
      simp only [draws, hk', hs', hx, if_true] at hnew hquiet
      cases hclosed : c.table.closed with
      | true => simp [hclosed] at hquiet
      | false =>
        simp only [hclosed, Bool.false_eq_true, if_false, List.mem_singleton, forall_eq] at hnew
        obtain ⟨j, hj⟩ := CallTable.exists_enter_passOver hnew.1 hnew.2
        refine ⟨List.replicate j .skip ++ [.event (.advance other)], ?_, Or.inl ?_, ?_⟩
        · rw [List.filterMap_append, filterMap_skips rfl]
          rfl
        · rw [List.filterMap_append, filterMap_skips rfl]
          rfl
        · have hcall' : ({ c.without caller n with
              table := (c.without caller n).table.passOver j } : Connection σ).call? other =
              some k' := hcall
          have hclosed' : ((c.without caller n).table.passOver j).closed = false := hclosed
          have hentered : ((c.without caller n).table.passOver j).enter =
              (c.table.enter.1, (c.table.enter.2.remove n).2) := hj
          rw [pass_append, pass_skips, pass_event, hbefore, leaving_eq_without hafter]
          simp only [step, advance, hcall', hk', hs', number, hx, CallTable.register, hclosed,
            hclosed', hentered, if_true, Bool.false_eq_true, if_false, List.append_nil]
          exact congrArg (fun after : Connection σ => ((after, []) : Progress σ))
            (setStage_without (c := { c with table := c.table.enter.2 }) other _)

/-- What a caller that ends has to do with the calls is over. -/
theorem gone_of_ended {ending : Ending} (h : Output.ended caller ending ∈ (c.step p e).2) :
    (c.step p e).1.call? caller = none := by
  obtain ⟨calls, ended, hmoves, ⟨g, hg, -⟩, hended⟩ := calls_step (p := p) (c := c) e
  have hmem : (caller, ending) ∈ ended := by
    rw [← hended]
    exact List.mem_filterMap.mpr ⟨_, h, rfl⟩
  have hgone : calls.lookup caller = none := by
    cases hmoves with
    | refused hk =>
      obtain ⟨rfl, -⟩ := Prod.mk.inj (List.mem_singleton.mp hmem)
      exact hk
    | ended =>
      obtain ⟨rfl, -⟩ := Prod.mk.inj (List.mem_singleton.mp hmem)
      exact lookup_filter_self c.calls _
    | _ => cases hmem
  rw [call?, hg, lookup_map, hgone]
  rfl

/-- A call that does not come to be written goes on as it was brought. -/
theorem isEarly_step {k' : Call} (hc : (c.calls.map Prod.fst).Nodup)
    (hk : c.call? caller = some k) (hearly : k.stage.isEarly)
    (hk' : (c.step p e).1.call? caller = some k') (hnot : ∀ m, k'.stage ≠ .writing m) :
    k'.stage.isEarly ∧ k'.brought = k.brought := by
  obtain ⟨calls, ended, hmoves, ⟨g, hg, hreceives⟩, -⟩ := calls_step (p := p) (c := c) e
  rw [call?, hg, lookup_map] at hk'
  obtain ⟨k₁, hk₁, rfl⟩ := Option.map_eq_some_iff.mp hk'
  have hbrought : (g k₁).brought = k₁.brought := by
    rcases hreceives k₁ with hsame | ⟨_, _, -, -, -, hsame⟩
    · rw [hsame]
    · rw [hsame]
      rfl
  rw [(hreceives k₁).stage] at hnot ⊢
  rw [hbrought]
  have hold : (caller, k₁) ∈ c.calls → k₁.stage.isEarly ∧ k₁.brought = k.brought := by
    intro hmem
    obtain rfl := Option.some.inj (hk.symm.trans (lookup_of_mem hc hmem))
    exact ⟨hearly, rfl⟩
  have hmem := mem_of_lookup hk₁
  have hrestage : ∀ {other stage}, (caller, k₁) ∈ (c.setStage other stage).calls →
      (stage.isEarly ∨ ∃ m, stage = .writing m) → k₁.stage.isEarly ∧ k₁.brought = k.brought := by
    intro other stage hmem hstage
    rcases mem_setStage hmem with hmem | ⟨k₀, hk₀, heq⟩
    · exact hold hmem
    · obtain ⟨rfl, rfl⟩ := Prod.mk.inj heq
      obtain rfl := Option.some.inj (hk.symm.trans (lookup_of_mem hc hk₀))
      rcases hstage with hstage | ⟨m, rfl⟩
      · exact ⟨hstage, rfl⟩
      · exact absurd rfl (hnot m)
  cases hmoves with
  | stay | refused => exact hold hmem
  | @joined other _ _ _ _ _ hk₂ =>
    rcases List.mem_append.mp hmem with hmem | hmem
    · exact hold hmem
    · obtain ⟨rfl, -⟩ := Prod.mk.inj (List.mem_singleton.mp hmem)
      rw [hk] at hk₂
      cases hk₂
  | numbered => exact hrestage hmem (Or.inl rfl)
  | queued => exact hrestage hmem (Or.inr ⟨_, rfl⟩)
  | @sent w other k₂ m f hw hshut hk₂ hs₂ =>
    rcases mem_setStage hmem with hmem | ⟨k₀, hk₀, heq⟩
    · exact hold hmem
    · obtain ⟨rfl, -⟩ := Prod.mk.inj heq
      obtain rfl := Option.some.inj (hk.symm.trans hk₂)
      rw [hs₂] at hearly
      cases hearly
  | ended | abandoned => exact hold (List.mem_filter.mp hmem).1

end Connection

end Rpc
