import Rpc.Proofs.Connection.Stranded

/-! # Connections that come to their end

A connection whose start is over stays doomed once somebody is about to tear it down. If nobody goes
away from a stop, it is gone when no teardown has a step left.
-/
namespace Rpc

namespace Race

variable {r : Race} {task : Nat} {c : Closing}

/-- A closing that is not done takes a step. -/
theorem step_close_ne (hc : r.closers.lookup task = some c) (hne : c ≠ .done) :
    r.step (.close task) ≠ r := by
  have hset : ∀ (q : Race) (after : Closing), q.closers = r.closers → after ≠ c →
      q.setCloser task after ≠ r := by
    intro q after hq hafter hsame
    have hlookup := lookup_setCloser q task task after
    rw [hsame, if_pos rfl, hq, hc] at hlookup
    exact hafter (Option.some.inj hlookup).symm
  simp only [step, hc]
  cases c with
  | begun => exact hset { r with closed := true } _ rfl Closing.noConfusion
  | flagged => exact hset r _ rfl Closing.noConfusion
  | draining left =>
    cases left with
    | nil => exact hset r _ rfl Closing.noConfusion
    | cons n left =>
      refine hset _ _ (take_closers r n _) fun heq => ?_
      injection heq with heq
      exact absurd (congrArg List.length heq) (by simp)
  | done => exact absurd rfl hne

end Race

/-- Whether the task is about to move the phase on, or to find it moved. -/
def Winding.isComing : Winding → Bool
  | looking | noticing | entering => true
  | _ => false

namespace Life

/-- No teardown takes a step. -/
def AtRest (l : Life) : Prop := ∀ task, l.step (.wind task) = l

/-- A server's connection whose callers of stop all stay. -/
def Undropped (l : Life) : Prop := ∃ es, l = (new .server).run es ∧ ∀ task, .drop task ∉ es

/-- The connection is over, or somebody comes to tear it down. -/
def Doomed (l : Life) : Prop :=
  l.phase.isOver = true ∨
    ∃ task t, l.teardowns.lookup task = some t ∧ t.progress.isComing = true

variable {l l' : Life} {task k : Nat} {t : Teardown} {after : Winding} {e : Event}

/-! ## Teardowns that are at rest -/

theorem setTeardown_ne (ht : l.teardowns.lookup task = some t)
    (hsame : l'.teardowns = l.teardowns) (hne : after ≠ t.progress) :
    l'.setTeardown task after ≠ l := by
  intro heq
  have hlookup := lookup_setTeardown l' task after task
  rw [heq, if_pos rfl, hsame, ht] at hlookup
  exact hne (congrArg Teardown.progress (Option.some.inj hlookup)).symm

/-- A teardown that has something left to run takes a step. -/
theorem stepTeardown_ne (h : Drained l) (ht : l.teardowns.lookup task = some t)
    (hlive : t.progress.isLive = true) : l.stepTeardown task t ≠ l := by
  obtain ⟨actor, progress⟩ := t
  have hset : ∀ {l' : Life} {after : Winding}, l'.teardowns = l.teardowns → after ≠ progress →
      l'.setTeardown task after ≠ l := fun hsame hne => setTeardown_ne ht hsame hne
  have hrest : ∀ actor, (rest actor).isLive = false := fun actor => by cases actor <;> rfl
  have hends : ∀ actor, rest actor ≠ progress := by
    rintro actor rfl
    rw [hrest] at hlive
    cases hlive
  cases progress with
  | looking =>
    simp only [stepTeardown]
    split <;> exact hset rfl Winding.noConfusion
  | noticing | graceful => exact hset rfl Winding.noConfusion
  | entering =>
    simp only [stepTeardown]
    split
    · exact hset rfl (hends actor)
    · exact hset rfl Winding.noConfusion
  | shutting =>
    simp only [stepTeardown]
    split <;> exact hset rfl Winding.noConfusion
  | socket => exact hset rfl Winding.noConfusion
  | tabling => exact hset rfl Winding.noConfusion
  | draining wasUp =>
    simp only [stepTeardown]
    split
    · exact hset rfl Winding.noConfusion
    · rename_i hopen
      obtain ⟨c, hc⟩ := Option.ne_none_iff_exists'.mp (h.enrolled task wasUp ⟨rfl, _, ht, rfl⟩)
      intro heq
      refine Race.step_close_ne hc ?_ (congrArg Life.race heq)
      rintro rfl
      exact hopen hc
  | marking => exact hset rfl (hends actor)
  | waiting | done | dropped => cases hlive

theorem AtRest.stepTeardown (h : l.AtRest) (ht : l.teardowns.lookup task = some t) :
    l.stepTeardown task t = l := by
  have hrest := h task
  simp only [Life.step, ht] at hrest
  exact hrest

theorem AtRest.isLive_eq_false (h : l.AtRest) (hdrained : Drained l)
    (ht : l.teardowns.lookup task = some t) : t.progress.isLive = false := by
  cases hlive : t.progress.isLive with
  | false => rfl
  | true => exact absurd (h.stepTeardown ht) (stepTeardown_ne hdrained ht hlive)

theorem atRest_of_done (h : ∀ x ∈ l.teardowns, x.2.progress = .done) : l.AtRest := by
  intro task
  simp only [Life.step]
  split
  · rename_i t ht
    have hdone : t.progress = .done := h _ (mem_of_lookup ht)
    rw [Life.stepTeardown, hdone]
  · rfl

namespace Undropped

theorem step (h : Undropped l) (he : ∀ task, e ≠ .drop task) : Undropped (l.step e) := by
  obtain ⟨es, rfl, hnone⟩ := h
  refine ⟨es ++ [e], (run_concat es e).symm, fun task hmem => ?_⟩
  rcases List.mem_append.mp hmem with hmem | hmem
  · exact hnone task hmem
  · exact he task (List.mem_singleton.mp hmem).symm

theorem drained (h : Undropped l) : Drained l := by
  obtain ⟨es, rfl, -⟩ := h
  exact drained_run .server es

theorem not_stranded (h : Undropped l) : ¬ l.Stranded := by
  obtain ⟨es, rfl, hnone⟩ := h
  intro hs
  obtain ⟨front, task, back, hes, -⟩ :=
    (stranded_iff .server es).mp ⟨es, [], (List.append_nil es).symm, hs⟩
  refine hnone task ?_
  rw [hes]
  exact List.mem_append_right _ List.mem_cons_self

/-- When no teardown takes a step any more, a connection that is over is gone. -/
theorem gone_of_atRest (h : Undropped l) (hrest : l.AtRest) (hover : l.phase.isOver = true) :
    l.phase = .disconnected := by
  cases hp : l.phase with
  | created | connecting | connected =>
    rw [hp] at hover
    cases hover
  | disconnected => rfl
  | disconnecting =>
    refine absurd ⟨hp, ?_⟩ h.not_stranded
    rintro k w ⟨hw, t, ht, rfl⟩
    rw [not_isWorking_of_not_isLive (hrest.isLive_eq_false h.drained ht)] at hw
    cases hw

end Undropped

/-! ## What stays so -/

theorem gone_step (h : l.phase = .disconnected)
    (hstarted : l.starting = .running ∨ l.starting = .ended) (e : Event) :
    (l.step e).phase = .disconnected := by
  rcases step_phase l e with hkept | ⟨p, hsets, hmoves⟩
  · exact hkept.1.trans h
  · rw [hmoves.1]
    cases hsets with
    | settle => rfl
    | enter task hup =>
      rw [h] at hup
      cases hup
    | greet hs | mark hs =>
      rw [hs] at hstarted
      rcases hstarted with hs | hs <;> cases hs

theorem lookup_stepTeardown_ne (hne : k ≠ task) :
    (l.stepTeardown task t).teardowns.lookup k = l.teardowns.lookup k := by
  rcases stepTeardown_teardowns l task t with hsame | ⟨after, hafter⟩
  · rw [hsame]
  · rw [hafter, lookup_setTeardown, if_neg hne]

/-- Who comes to tear a connection down comes further, or the connection is over then. -/
theorem doomed_stepTeardown (ht : l.teardowns.lookup task = some t)
    (hcoming : t.progress.isComing = true) : Doomed (l.stepTeardown task t) := by
  obtain ⟨actor, progress⟩ := t
  have hset : ∀ after : Winding, after.isComing = true → Doomed (l.setTeardown task after) := by
    intro after hafter
    refine Or.inr ⟨task, ⟨actor, after⟩, ?_, hafter⟩
    rw [lookup_setTeardown, if_pos rfl, ht, Option.map_some]
  cases progress with
  | looking =>
    refine hset _ ?_
    split <;> rfl
  | noticing => exact hset _ rfl
  | entering =>
    simp only [stepTeardown]
    split
    · exact Or.inl ‹_›
    · exact Or.inl rfl
  | shutting | graceful | socket | tabling | draining | marking | waiting | done | dropped =>
    cases hcoming

theorem Doomed.step (h : Doomed l) (hstarted : l.starting = .running ∨ l.starting = .ended)
    (he : ∀ task, e ≠ .drop task) : Doomed (l.step e) := by
  rcases h with hover | ⟨k, t, ht, hcoming⟩
  · exact Or.inl (isOver_step hover hstarted e)
  · cases step_winds l e with
    | same hsame =>
      rw [← hsame] at ht
      exact Or.inr ⟨k, t, ht, hcoming⟩
    | brings task t' _ _ hafter =>
      refine Or.inr ⟨k, t, ?_, hcoming⟩
      rw [hafter, lookup_concat, ht, Option.some_or]
    | goes task t' _ ht' hafter =>
      rw [hafter]
      by_cases hk : k = task
      · subst hk
        cases ht.symm.trans ht'
        exact doomed_stepTeardown ht hcoming
      · exact Or.inr ⟨k, t, (lookup_stepTeardown_ne hk).trans ht, hcoming⟩
    | drops task t' hdrop => exact absurd hdrop (he task)

theorem Doomed.isOver (h : Doomed l) (hrest : l.AtRest) (hdrained : Drained l) :
    l.phase.isOver = true := by
  rcases h with hover | ⟨k, t, ht, hcoming⟩
  · exact hover
  · have hlive := hrest.isLive_eq_false hdrained ht
    cases hp : t.progress <;> rw [hp] at hlive hcoming <;> contradiction

/-! ## Who begins a teardown -/

/-- A number is new until an event brings a teardown under it. -/
theorem lookup_step_none (h : l.teardowns.lookup k = none) (he : e.brings? ≠ some k) :
    (l.step e).teardowns.lookup k = none := by
  cases step_winds l e with
  | same hsame => rw [hsame, h]
  | brings task t hbrings _ hafter =>
    have hk : k ≠ task := by
      rintro rfl
      exact he hbrings
    rw [hafter, lookup_concat, h, if_neg hk]
    rfl
  | goes task t _ ht hafter =>
    have hk : k ≠ task := by
      rintro rfl
      rw [h] at ht
      cases ht
    rw [hafter, lookup_stepTeardown_ne hk, h]
  | drops task t _ _ hafter =>
    rw [hafter]
    unfold dropTeardown
    split
    · rw [lookup_setTeardown, h]
      split <;> rfl
    · exact h

theorem doomed_beginStop (h : l.teardowns.lookup task = none) (hne : task ≠ startTask) :
    Doomed (l.step (.beginStop task)) := by
  have hfree : l.isFree task = true := by simp [isFree, h, hne]
  simp only [step, hfree, if_true]
  refine Or.inr ⟨task, ⟨.stopper, .looking⟩, ?_, rfl⟩
  change (l.teardowns ++ [(task, _)]).lookup task = _
  rw [lookup_concat, h, if_pos rfl]
  rfl

/-! ## Who goes away -/

/-- No caller of a stop has gone away. -/
def NoneDropped (l : Life) : Prop :=
  ∀ task t, l.teardowns.lookup task = some t → t.progress ≠ .dropped

namespace NoneDropped

theorem keep (h : NoneDropped l) (hsame : l'.teardowns = l.teardowns) : NoneDropped l' := by
  unfold NoneDropped
  rw [hsame]
  exact h

theorem setTeardown (h : NoneDropped l) (hafter : after ≠ .dropped) :
    NoneDropped (l.setTeardown task after) := by
  intro k t ht
  rw [lookup_setTeardown] at ht
  split at ht
  · obtain ⟨t', -, rfl⟩ := Option.map_eq_some_iff.mp ht
    exact hafter
  · exact h k t ht

theorem stepTeardown (h : NoneDropped l) (task : Nat) (t : Teardown) :
    NoneDropped (l.stepTeardown task t) := by
  have hset : ∀ {l' : Life} {after : Winding}, l'.teardowns = l.teardowns → after ≠ .dropped →
      NoneDropped (l'.setTeardown task after) := fun hsame hafter =>
    (h.keep hsame).setTeardown hafter
  have hrest : rest t.actor ≠ .dropped := by
    unfold rest
    split <;> exact Winding.noConfusion
  unfold Life.stepTeardown
  split
  · split <;> exact hset rfl Winding.noConfusion
  · exact hset rfl Winding.noConfusion
  · split
    · exact hset rfl hrest
    · exact hset rfl Winding.noConfusion
  · split <;> exact hset rfl Winding.noConfusion
  · exact hset rfl Winding.noConfusion
  · exact hset rfl Winding.noConfusion
  · exact hset rfl Winding.noConfusion
  · split
    · exact hset rfl Winding.noConfusion
    · exact h.keep rfl
  · exact hset rfl hrest
  · split
    · exact hset rfl Winding.noConfusion
    · exact h
  · exact h
  · exact h

theorem step (h : NoneDropped l) (he : ∀ task, e ≠ .drop task) : NoneDropped (l.step e) := by
  cases step_winds l e with
  | same hsame => exact h.keep hsame
  | brings task t _ hcomes hafter =>
    intro k t' ht'
    rw [hafter, lookup_concat, Option.or_eq_some_iff] at ht'
    rcases ht' with hold | ⟨-, hnew⟩
    · exact h k t' hold
    · split at hnew
      · cases hnew
        rcases hcomes with hprogress | hprogress <;> rw [hprogress] <;> exact Winding.noConfusion
      · cases hnew
  | goes task t _ _ hafter =>
    rw [hafter]
    exact h.stepTeardown task t
  | drops task t hdrop => exact absurd hdrop (he task)

end NoneDropped

/-! ## The start of a server's connection -/

theorem side_stepTeardown (l : Life) (task : Nat) (t : Teardown) :
    (l.stepTeardown task t).side = l.side := by
  unfold stepTeardown
  split <;> first | rfl | (split <;> rfl)

theorem side_step (l : Life) (e : Event) : (l.step e).side = l.side := by
  cases e with
  | start =>
    simp only [step, stepStart]
    cases l.starting with
    | idle | taking =>
      dsimp only
      split <;> rfl
    | marking | greeting | running | ended => rfl
  | greeted success =>
    simp only [step, greeted]
    by_cases hs : l.starting = .greeting
    · rw [if_pos hs]
      cases success <;> rfl
    · rw [if_neg hs]
  | loopEnds task | beginStop task | writeFails task | call task | race q =>
    simp only [step, call]
    split <;> rfl
  | wind task =>
    simp only [step]
    split
    · exact side_stepTeardown l task _
    · rfl
  | drop task =>
    simp only [step, dropTeardown]
    split
    · split <;> rfl
    · rfl

theorem Undropped.side (h : Undropped l) : l.side = .server := by
  obtain ⟨es, rfl, -⟩ := h
  induction es using List.reverseRecOn with
  | nil => rfl
  | append_singleton es e ih =>
    rw [run_concat, side_step]
    exact ih

theorem Undropped.noneDropped (h : Undropped l) : NoneDropped l := by
  obtain ⟨es, rfl, hnone⟩ := h
  induction es using List.reverseRecOn with
  | nil => exact fun task t ht => nomatch ht
  | append_singleton es e ih =>
    rw [run_concat]
    refine (ih fun task hmem => hnone task (List.mem_append_left _ hmem)).step fun task he => ?_
    exact hnone task (List.mem_append_right _ (List.mem_singleton.mpr he.symm))

/-- The start goes on, or it fails and somebody comes to tear the connection down. -/
theorem Undropped.stepStart (h : Undropped l)
    (hs : l.starting = .idle ∨ l.starting = .taking ∨ l.starting = .marking)
    (hnone : l.teardowns.lookup startTask = none) :
    (((l.step .start).starting = .taking ∨ (l.step .start).starting = .marking ∨
        (l.step .start).starting = .running) ∧ (l.step .start).teardowns = l.teardowns) ∨
      ((l.step .start).starting = .ended ∧ Doomed (l.step .start)) := by
  simp only [Life.step, Life.stepStart, h.side]
  rcases hs with hs | hs | hs <;> rw [hs]
  · exact Or.inl ⟨Or.inl rfl, rfl⟩
  · dsimp only
    split
    · refine Or.inr ⟨rfl, Or.inr ⟨startTask, ⟨.starter, .entering⟩, ?_, rfl⟩⟩
      change (l.teardowns ++ [(startTask, _)]).lookup startTask = _
      rw [lookup_concat, hnone, if_pos rfl]
      rfl
    · exact Or.inl ⟨Or.inr (Or.inl rfl), rfl⟩
  · exact Or.inl ⟨Or.inr (Or.inr rfl), rfl⟩

/-- A start that is under way takes a step, unless it waits for the greeting. -/
theorem step_start_ne (hs : l.starting = .idle ∨ l.starting = .taking ∨ l.starting = .marking) :
    l.step .start ≠ l := by
  intro heq
  have hstarting := congrArg starting heq
  simp only [step, stepStart] at hstarting
  rcases hs with hs | hs | hs
  · rw [hs] at hstarting
    cases hside : l.side <;> simp [hside] at hstarting
  · rw [hs] at hstarting
    cases hside : l.side <;> cases hshut : l.shut <;>
      simp [hside, hshut, addTeardown] at hstarting
  · rw [hs] at hstarting
    cases hstarting

/-- What happens to a connection beside its start. -/
structure Event.IsBeside (e : Event) : Prop where
  ne_start : e ≠ .start
  ne_greeted : ∀ success, e ≠ .greeted success
  ne_drop : ∀ task, e ≠ .drop task

theorem starting_step (he : e.IsBeside) : (l.step e).starting = l.starting ∨
    l.starting = .running ∧ (l.step e).starting = .ended := by
  cases e with
  | start => exact absurd rfl he.ne_start
  | greeted success => exact absurd rfl (he.ne_greeted success)
  | drop task => exact absurd rfl (he.ne_drop task)
  | loopEnds task =>
    simp only [step]
    split
    · rename_i hends
      exact Or.inr ⟨hends.1, rfl⟩
    · exact Or.inl rfl
  | wind task =>
    simp only [step]
    split
    · exact Or.inl (stepTeardown_starting l task _)
    · exact Or.inl rfl
  | beginStop task | writeFails task | call task | race q =>
    simp only [step, call]
    split <;> exact Or.inl rfl

end Life

end Rpc
