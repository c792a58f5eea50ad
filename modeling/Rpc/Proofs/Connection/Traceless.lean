import Mathlib.Data.List.Induction
import Mathlib.Data.List.Infix
import Rpc.Proofs.Connection.Shadows

/-! # Calls that leave no trace

A call may fail before its frame goes to a writer: it is turned away at the door, a layer refuses its
message, or the frame cannot be encoded. The run with the call is compared with one without it. At
every moment the second is where the first would be if the caller went away, so once the call has
failed they are the same.
-/
namespace Rpc.Connection

open Message

variable {σ : Type} {p : Profile σ} {c : Connection σ} {caller : Nat} {n : UInt64} {k : Call}
  {e : Event} {s : σ} {front back es : List Event}

/-- While the caller has a call, no writer is given its frame, and no number is given out twice. -/
structure Unwritten (p : Profile σ) (s : σ) (es : List Event) (caller : Nat) : Prop where
  stage : ∀ mid k n, mid <+: es → (run p (.new p s) mid).1.call? caller = some k →
    k.stage ≠ .writing n
  once : ∀ mid k, mid <+: es → (run p (.new p s) mid).1.call? caller = some k →
    (drawn p s mid).Nodup

theorem Unwritten.mono (h : Unwritten p s (es ++ back) caller) : Unwritten p s es caller where
  stage mid k n hmid := h.stage mid k n (hmid.trans (List.prefix_append es back))
  once mid k hmid := h.once mid k (hmid.trans (List.prefix_append es back))

theorem drawn_ne_zero {m : UInt64} (hm : m ∈ drawn p s es) : m ≠ 0 := ((numbered_run s es).2 m hm).1

theorem zero_not_mem_waiting (s : σ) (es : List Event) :
    (0 : UInt64) ∉ (run p (.new p s) es).1.table.waiting := fun hmem =>
  drawn_ne_zero (waiting_run s es 0 hmem) rfl

theorem number_drawn (hk : (run p (.new p s) es).1.call? caller = some k)
    (hn : k.number? = some n) : n ∈ drawn p s es := by
  obtain ⟨k₀, hk₀, -⟩ :=
    (owns_run (p := p) s es _ (mem_of_lookup hk)).number n (Call.number?_of_stage hn)
  exact List.mem_map.mpr ⟨_, hk₀, rfl⟩

theorem separate_run (hk : (run p (.new p s) es).1.call? caller = some k)
    (hearly : k.stage.isEarly) (honce : (drawn p s es).Nodup) :
    Separate (run p (.new p s) es).1.calls caller (k.number?.getD 0) := by
  have hkeys := callers_run (p := p) s es
  have hself : ∀ k', (caller, k') ∈ (run p (.new p s) es).1.calls → k' = k := fun k' hk' =>
    Option.some.inj ((lookup_of_mem hkeys hk').symm.trans hk)
  constructor
  · intro k' m hk' hwriting
    rw [hself k' hk'] at hwriting
    rw [hwriting] at hearly
    cases hearly
  · intro k' m hk' hm
    rw [hself k' hk'] at hm
    rw [hm, Option.getD_some]
  · intro x hx hn
    have hx' : (run p (.new p s) es).1.call? x.1 = some x.2 := lookup_of_mem hkeys hx
    cases hnumber : k.number? with
    | none =>
      rw [hnumber] at hn
      exact absurd rfl (drawn_ne_zero (number_drawn hx' hn))
    | some m =>
      rw [hnumber] at hn
      exact caller_unique s (List.nodup_iff_count_le_one.mp honce m) hk
        (Call.number?_of_stage hnumber) hx' (Call.number?_of_stage hn)

theorem forget_run (hk : (run p (.new p s) es).1.call? caller = some k)
    (hearly : k.stage.isEarly) (honce : (drawn p s es).Nodup) :
    (run p (.new p s) es).1.forget caller =
      (run p (.new p s) es).1.without caller (k.number?.getD 0) :=
  forget_eq_without_key (separate_run hk hearly honce) hk (zero_not_mem_waiting s es)

/-- A number that is given out for the first time is not on the table. -/
theorem draws_new (honce : (drawn p s (es ++ [e])).Nodup) :
    ∀ x ∈ (run p (.new p s) es).1.draws e, x.1 ∉ drawn p s es := by
  intro x hx hmem
  rw [drawn_concat, List.nodup_append] at honce
  exact honce.2.2 x.1 hmem x.1 (List.mem_map.mpr ⟨x, hx, rfl⟩) rfl

/-- While a call is under way, every event has its shadow. -/
theorem exists_shadow (h : Unwritten p s (es ++ [e]) caller) (hj : ¬ e.Joins caller)
    (hk : (run p (.new p s) es).1.call? caller = some k) (hearly : k.stage.isEarly) :
    ∃ hs, Shadow p (run p (.new p s) es).1 caller k e hs := by
  have hnext : ∀ k', ((run p (.new p s) es).1.step p e).1.call? caller = some k' →
      (run p (.new p s) (es ++ [e])).1.call? caller = some k' := by
    intro k' hk'
    rw [run_concat]
    exact hk'
  have hnot : ∀ k' m, ((run p (.new p s) es).1.step p e).1.call? caller = some k' →
      k'.stage ≠ .writing m := fun k' m hk' =>
    h.stage (es ++ [e]) k' m (List.prefix_refl _) (hnext k' hk')
  have honce : ∀ k', ((run p (.new p s) es).1.step p e).1.call? caller = some k' →
      (drawn p s (es ++ [e])).Nodup := fun k' hk' =>
    h.once (es ++ [e]) k' (List.prefix_refl _) (hnext k' hk')
  have hforget : ∀ k', ((run p (.new p s) es).1.step p e).1.call? caller = some k' →
      ((run p (.new p s) es).1.step p e).1.forget caller =
        ((run p (.new p s) es).1.step p e).1.without caller (k'.number?.getD 0) := by
    intro k' hk'
    have hearly' := (isEarly_step (callers_run s es) hk hearly hk' fun m => hnot k' m hk').1
    have hgone := forget_run (hnext k' hk') hearly' (honce k' hk')
    rw [run_concat] at hgone
    exact hgone
  by_cases he : e.Of caller
  · refine exists_shadow_own hk hearly he hnot fun k' hk' => ⟨fun x hx hmem => ?_, hforget k' hk'⟩
    exact draws_new (honce k' hk') x hx (waiting_run s es x.1 hmem)
  · obtain ⟨k', hk', -, hnumber, -⟩ := call?_step_of_not (p := p) hk hearly he
    have hafter := hforget k' hk'
    rw [hnumber] at hafter
    have hbefore := h.once es k (List.prefix_append es [e]) hk
    refine exists_shadow_other hj he (separate_run hk hearly hbefore)
      (forget_run hk hearly hbefore) hafter fun x hx => ?_
    have hnew := draws_new (honce k' hk') x hx
    refine ⟨fun hmem => hnew (waiting_run s es x.1 hmem), ?_⟩
    cases hn : k.number? with
    | some n =>
      rintro rfl
      exact hnew (number_drawn hk hn)
    | none =>
      have hdrawn : x.1 ∈ drawn p s (es ++ [e]) := by
        rw [drawn_concat]
        exact List.mem_append_right _ (List.mem_map.mpr ⟨x, hx, rfl⟩)
      exact drawn_ne_zero hdrawn

/-- Nobody hears of a caller that never comes with a call. -/
theorem leaving_run_of_gone (hk : c.call? caller = none) (hname : ∀ e ∈ es, ¬ e.Joins caller) :
    (run p c es).1.call? caller = none ∧ (run p c es).leaving caller = run p c es := by
  induction es generalizing c with
  | nil =>
    refine ⟨hk, ?_⟩
    unfold run Progress.leaving
    rw [forget_of_gone hk]
    rfl
  | cons e es ih =>
    obtain ⟨hgone, hquiet⟩ := leaving_step_of_gone (p := p) hk (hname e List.mem_cons_self)
    obtain ⟨hend, hrest⟩ := ih hgone fun e' he' => hname e' (List.mem_cons_of_mem e he')
    have hfirst : (c.step p e).2.filter (fun o => !o.tells caller) = (c.step p e).2 :=
      congrArg Prod.snd hquiet
    have hlater : (run p (c.step p e).1 es).2.filter (fun o => !o.tells caller) =
        (run p (c.step p e).1 es).2 := congrArg Prod.snd hrest
    refine ⟨hend, ?_⟩
    unfold run Progress.andThen Progress.leaving
    dsimp only
    rw [forget_of_gone hend, List.filter_append, hfirst, hlater]

theorem leaving_concat (es : List Event) (e : Event) :
    (run p c (es ++ [e])).leaving caller =
      (((run p c es).1.step p e).leaving caller).map id fun outputs =>
        ((run p c es).leaving caller).2 ++ outputs := by
  unfold Progress.leaving
  rw [run_append, run_singleton, List.filter_append]
  rfl

/-- A call that has come has changed nothing yet. -/
theorem leaving_call (hk : c.call? caller = none) (expects : Bool) (context : CallContext)
    (moment : Moment) (method : String) (payload : Bytes) :
    (c.call caller expects context moment method payload).leaving caller = (c, []) ∧
      ∀ k, (c.call caller expects context moment method payload).1.call? caller = some k →
        k = ⟨expects, context, method, payload, moment.now, .admitted, none⟩ := by
  unfold call
  rw [hk, Option.isSome_none, if_neg Bool.false_ne_true]
  cases gate c.phase expects context moment with
  | some cause =>
    refine ⟨?_, fun k hk' => ?_⟩
    · unfold Progress.leaving
      simp [forget_of_gone hk, Output.tells]
    · dsimp only at hk'
      rw [hk] at hk'
      cases hk'
  | none =>
    dsimp only
    generalize hk₀ : (⟨expects, context, method, payload, moment.now, .admitted, none⟩ : Call) = k₀
    have hcall : ({ c with calls := c.calls ++ [(caller, k₀)] } : Connection σ).call? caller =
        some k₀ := by
      unfold call?
      rw [lookup_concat, if_pos rfl]
      exact congrArg (fun k => Option.or k _) hk
    have hnumber : k₀.number? = none := by
      rw [← hk₀]
      cases expects <;> rfl
    have hcalls : (c.calls ++ [(caller, k₀)]).filter (·.1 ≠ caller) = c.calls := by
      rw [List.filter_append, List.filter_cons_of_neg (by simp), List.filter_nil, List.append_nil,
        List.filter_eq_self]
      intro x hx
      exact decide_eq_true (ne_of_lookup_eq_none hk hx)
    refine ⟨?_, fun k hk' => ?_⟩
    · unfold Progress.leaving
      rw [forget_of_unnumbered hcall hnumber]
      simp only [hcalls, List.filter_nil]
    · exact Option.some.inj (hk'.symm.trans hcall)

/-- Some happenings are like a run with a call, as far as they go without it. -/
structure Alike (p : Profile σ) (s : σ) (es others : List Event) (caller : Nat) (k₀ : Call)
    (hs : List Happening) : Prop where
  events : hs.filterMap Happening.event? = others
  walks : hs.filterMap Happening.walk? = [] ∨
    hs.filterMap Happening.walk? = [(k₀.kind, k₀.context.baggage)] ∧
      (run p (.new p s) es).1.call? caller = none
  progress : pass p (.new p s) hs = (run p (.new p s) es).leaving caller
  call : ∀ k, (run p (.new p s) es).1.call? caller = some k →
    k.stage.isEarly ∧ k.brought = k₀.brought
  told : ∀ ending, .ended caller ending ∈ (run p (.new p s) es).2 →
    (run p (.new p s) es).1.call? caller = none

theorem alike_call {expects : Bool} {context : CallContext} {moment : Moment} {method : String}
    {payload : Bytes} (hname : ∀ e ∈ front, ¬ e.Joins caller) :
    Alike p s (front ++ [.call caller expects context moment method payload]) front caller
      ⟨expects, context, method, payload, moment.now, .admitted, none⟩ (front.map .event) := by
  obtain ⟨hgone, hquiet⟩ := leaving_run_of_gone (p := p) (c := .new p s) rfl hname
  obtain ⟨hleaving, hcall⟩ := leaving_call hgone expects context moment method payload
  constructor
  · rw [List.filterMap_map]
    exact List.filterMap_some
  · refine Or.inl (List.filterMap_eq_nil_iff.mpr fun h hmem => ?_)
    obtain ⟨e, -, rfl⟩ := List.mem_map.mp hmem
    rfl
  · rw [pass_events, leaving_concat, hquiet]
    simp only [step, hleaving, Prod.map, id, List.append_nil]
  · intro k hk
    rw [run_concat] at hk
    rw [hcall k hk]
    exact ⟨rfl, rfl⟩
  · intro ending hmem
    rw [run_concat]
    rw [run_append, run_singleton, List.mem_append] at hmem
    rcases hmem with hmem | hmem
    · rw [← congrArg Prod.snd hquiet] at hmem
      simpa [Output.tells] using (List.mem_filter.mp hmem).2
    · exact gone_of_ended hmem

theorem Alike.concat {others : List Event} {k₀ : Call} {hs : List Happening}
    (h : Alike p s es others caller k₀ hs) (hj : ¬ e.Joins caller)
    (hunwritten : Unwritten p s (es ++ [e]) caller) :
    ∃ gs, Alike p s (es ++ [e]) (others ++ [e]) caller k₀ (hs ++ gs) := by
  -- a call that has gone stays away
  have hstays : (run p (.new p s) es).1.call? caller = none →
      (run p (.new p s) (es ++ [e])).1.call? caller = none := by
    intro hk
    rw [run_concat]
    exact (leaving_step_of_gone hk hj).1
  have htold : ∀ ending, .ended caller ending ∈ (run p (.new p s) (es ++ [e])).2 →
      (run p (.new p s) (es ++ [e])).1.call? caller = none := by
    intro ending hmem
    rw [run_append, run_singleton, List.mem_append] at hmem
    rcases hmem with hmem | hmem
    · exact hstays (h.told ending hmem)
    · rw [run_concat]
      exact gone_of_ended hmem
  have hprogress : ∀ gs, pass p ((run p (.new p s) es).1.forget caller) gs =
        ((run p (.new p s) es).1.step p e).leaving caller →
      pass p (.new p s) (hs ++ gs) = (run p (.new p s) (es ++ [e])).leaving caller := by
    intro gs hgs
    rw [pass_append, h.progress, leaving_concat, ← hgs]
    rfl
  cases hk : (run p (.new p s) es).1.call? caller with
  | none =>
    refine ⟨[.event e], ?_, ?_, hprogress _ ?_, fun k hk' => ?_, htold⟩
    · rw [List.filterMap_append, h.events]
      rfl
    · rw [List.filterMap_append]
      rcases h.walks with hwalks | ⟨hwalks, -⟩
      · exact Or.inl (by rw [hwalks]; rfl)
      · exact Or.inr ⟨by rw [hwalks]; rfl, hstays hk⟩
    · rw [pass_event, forget_of_gone hk, (leaving_step_of_gone hk hj).2]
    · rw [hstays hk] at hk'
      cases hk'
  | some k =>
    obtain ⟨hearly, hbrought⟩ := h.call k hk
    obtain ⟨gs, hshadow⟩ := exists_shadow hunwritten hj hk hearly
    have hwalks : hs.filterMap Happening.walk? = [] := by
      rcases h.walks with hwalks | ⟨-, hgone⟩
      · exact hwalks
      · rw [hk] at hgone
        cases hgone
    have hshown : (k.kind, k.context.baggage) = (k₀.kind, k₀.context.baggage) := by
      simp only [Call.brought, Prod.mk.injEq] at hbrought
      simp only [Call.kind, hbrought]
    refine ⟨gs, ?_, ?_, hprogress gs hshadow.progress, fun k' hk' => ?_, htold⟩
    · rw [List.filterMap_append, h.events, hshadow.events]
    · rw [List.filterMap_append, hwalks, List.nil_append, run_concat, ← hshown]
      exact hshadow.walks
    · have hnot := fun m => hunwritten.stage (es ++ [e]) k' m (List.prefix_refl _) hk'
      rw [run_concat] at hk'
      obtain ⟨hearly', hbrought'⟩ := isEarly_step (callers_run s es) hk hearly hk' hnot
      exact ⟨hearly', hbrought'.trans hbrought⟩

section Call

variable {expects : Bool} {context : CallContext} {moment : Moment} {method : String}
  {payload : Bytes} {cause : CallError}

theorem exists_alike (hfront : ∀ e ∈ front, ¬ e.Joins caller) (hback : ∀ e ∈ back, ¬ e.Joins caller)
    (h : Unwritten p s (front ++ .call caller expects context moment method payload :: back)
      caller) :
    ∃ hs, Alike p s (front ++ .call caller expects context moment method payload :: back)
      (front ++ back) caller ⟨expects, context, method, payload, moment.now, .admitted, none⟩
      hs := by
  induction back using List.reverseRecOn with
  | nil =>
    rw [List.append_nil]
    exact ⟨_, alike_call hfront⟩
  | append_singleton back e ih =>
    have hsplit : front ++ .call caller expects context moment method payload :: (back ++ [e]) =
        (front ++ .call caller expects context moment method payload :: back) ++ [e] := by
      rw [List.append_assoc, List.cons_append]
    rw [hsplit] at h ⊢
    obtain ⟨hs, halike⟩ := ih (fun e' he' => hback e' (List.mem_append_left _ he')) h.mono
    have hj := hback e (List.mem_append_right _ (List.mem_singleton_self e))
    obtain ⟨gs, hnext⟩ := halike.concat hj h
    rw [← List.append_assoc]
    exact ⟨hs ++ gs, hnext⟩

/-- What a call leaves behind that is never written. -/
structure Traceless (p : Profile σ) (s : σ) (es others : List Event) (caller : Nat) (expects : Bool)
    (context : CallContext) : Prop where
  /-- The context stays as it was brought. -/
  kept : ∀ mid k, mid <+: es → (run p (.new p s) mid).1.call? caller = some k →
    k.context = context
  /-- Without the call the same happens and is told, and the connection ends up the same. Only some
  numbers may be passed over, and the layers may be shown the message of the call. -/
  same : ∃ hs, hs.filterMap Happening.event? = others ∧
    hs.filterMap Happening.walk? <+: [(if expects then .request else .event, context.baggage)] ∧
    pass p (.new p s) hs =
      ((run p (.new p s) es).1, (run p (.new p s) es).2.filter fun o => !o.tells caller)

/-- A call that fails before its frame is handed to a writer leaves no trace, whatever others do in
the meantime and afterwards. A caller's name stands for one call, and the counter of the numbers has
not come round while the call is under way. -/
theorem traceless_of_fails (hname : ∀ e ∈ front ++ back, ¬ e.Joins caller)
    (hunwritten : Unwritten p s (front ++ .call caller expects context moment method payload :: back)
      caller)
    (hfails : .ended caller (.failed cause) ∈
      (run p (.new p s) (front ++ .call caller expects context moment method payload :: back)).2) :
    Traceless p s (front ++ .call caller expects context moment method payload :: back)
      (front ++ back) caller expects context := by
  have hfront : ∀ e ∈ front, ¬ e.Joins caller := fun e he => hname e (List.mem_append_left _ he)
  have hback : ∀ e ∈ back, ¬ e.Joins caller := fun e he => hname e (List.mem_append_right _ he)
  constructor
  · intro mid k hmid hk
    -- before the call there is nothing of it, and afterwards it is as it was brought
    have hwhole := List.prefix_append front
      (.call caller expects context moment method payload :: back)
    have hbefore : ∀ mid, mid <+: front → (run p (.new p s) mid).1.call? caller = none :=
      fun mid hmid => (leaving_run_of_gone rfl fun e he => hfront e (hmid.subset he)).1
    rcases List.prefix_or_prefix_of_prefix hmid hwhole with hearlier | ⟨later, rfl⟩
    · rw [hbefore mid hearlier] at hk
      cases hk
    · rw [List.prefix_append_right_inj] at hmid
      cases later with
      | nil =>
        rw [List.append_nil, hbefore front (List.prefix_refl front)] at hk
        cases hk
      | cons e mid =>
        obtain ⟨rfl, rest, rfl⟩ := List.cons_prefix_cons.mp hmid
        have hsplit : front ++ .call caller expects context moment method payload :: (mid ++ rest) =
            (front ++ .call caller expects context moment method payload :: mid) ++ rest := by
          rw [List.append_assoc, List.cons_append]
        rw [hsplit] at hunwritten
        obtain ⟨hs, halike⟩ := exists_alike hfront
          (fun e he => hback e (List.mem_append_left _ he)) hunwritten.mono
        have hbrought := (halike.call k hk).2
        simp only [Call.brought, Prod.mk.injEq] at hbrought
        exact hbrought.2.1
  · obtain ⟨hs, halike⟩ := exists_alike hfront hback hunwritten
    refine ⟨hs, halike.events, ?_, ?_⟩
    · rcases halike.walks with hwalks | ⟨hwalks, -⟩
      · rw [hwalks]
        exact List.nil_prefix
      · rw [hwalks]
        exact List.prefix_refl _
    · rw [halike.progress]
      unfold Progress.leaving
      rw [forget_of_gone (halike.told _ hfails)]

/-- A request that is too large for the connection, while another one is asked and answered. -/
def tooLarge : Event := .call 0 true {} ⟨0, fun _ => false⟩ "" (List.replicate 100 0)

def meanwhile : List Event :=
  [.advance 0, .call 1 true {} ⟨0, fun _ => false⟩ "" [2], .advance 1, .advance 0, .advance 1,
    .write 0, .arrive (.frame (.message 4 .response none none [7])), .advance 1]

theorem tooLarge_traceless :
    (∀ e ∈ [Event.start] ++ meanwhile, ¬ e.Joins 0) ∧
    Unwritten plainServer () ([.start] ++ tooLarge :: meanwhile) 0 ∧
    .ended 0 (.failed (.codec (.frameTooLarge 131 100))) ∈
      (run plainServer (.new plainServer ()) ([.start] ++ tooLarge :: meanwhile)).2 ∧
    Traceless plainServer () ([.start] ++ tooLarge :: meanwhile) ([.start] ++ meanwhile) 0 true
      {} := by
  have hname : ∀ e ∈ [Event.start] ++ meanwhile, ¬ e.Joins 0 := by
    simp [meanwhile, Event.Joins]
  have hall : ∀ mid ∈ ([Event.start] ++ tooLarge :: meanwhile).inits,
      ((run plainServer (.new plainServer ()) mid).1.call? 0).all (·.stage.isEarly) ∧
        (drawn plainServer () mid).Nodup := by
    decide +kernel
  have hunwritten : Unwritten plainServer () ([.start] ++ tooLarge :: meanwhile) 0 := by
    constructor
    · intro mid k n hmid hk hs
      have hearly := (hall mid ((List.mem_inits mid _).mpr hmid)).1
      rw [hk, Option.all_some, hs] at hearly
      cases hearly
    · exact fun mid k hmid _ => (hall mid ((List.mem_inits mid _).mpr hmid)).2
  have hfails : .ended 0 (.failed (.codec (.frameTooLarge 131 100))) ∈
      (run plainServer (.new plainServer ()) ([.start] ++ tooLarge :: meanwhile)).2 :=
    List.mem_of_getElem? (i := 1) (by rfl)
  exact ⟨hname, hunwritten, hfails, traceless_of_fails hname hunwritten hfails⟩

end Call

end Rpc.Connection
