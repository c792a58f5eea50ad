import Rpc.Proofs.Connection.Teardown

/-! # A connection that nobody tears down any more

Only the task that moved the phase on winds the connection down; all others find the connection over
and leave it. If the caller of a stop goes away during the graceful close, that task is gone, and
the connection winds down for good: its socket stays open and its calls wait. Nothing else strands
a connection, and whatever is not stranded comes to its end.
-/
namespace Rpc

namespace Race

variable {r : Race} {task : Nat} {c : Closing}

theorem keys_setCloser (r : Race) (task : Nat) (c : Closing) :
    (r.setCloser task c).closers.map Prod.fst = r.closers.map Prod.fst :=
  keys_modify (fun _ => c) r.closers task

/-- A closing that goes on is the only one that does. -/
theorem stepClose_setCloser (r : Race) (task : Nat) (hc : c ≠ .done) :
    ∃ c', (r.stepClose task c).closers = (r.setCloser task c').closers := by
  have hset : ∀ (q : Race) (after : Closing), q.closers = r.closers →
      (q.setCloser task after).closers = (r.setCloser task after).closers := by
    intro q after hq
    unfold setCloser
    rw [hq]
  cases c with
  | begun => exact ⟨.flagged, rfl⟩
  | flagged => exact ⟨_, rfl⟩
  | draining left =>
    cases left with
    | nil => exact ⟨_, rfl⟩
    | cons n left => exact ⟨_, hset _ _ (take_closers r n _)⟩
  | done => exact absurd rfl hc

theorem beginClose_closers (hnone : r.closers.lookup task = none) :
    (r.step (.beginClose task)).closers = r.closers ++ [(task, .begun)] := by
  simp [step, hnone]

theorem beginClose_of_some (hc : r.closers.lookup task = some c) :
    r.step (.beginClose task) = r := by
  simp [step, hc]

end Race

/-- Whether the table is being closed, or has been. -/
def Winding.closesTable : Winding → Bool
  | draining _ | marking _ => true
  | _ => false

namespace Life

/-- The connection winds down, but no task will wind it down any further. -/
def Stranded (l : Life) : Prop := l.phase = .disconnecting ∧ ∀ k w, ¬ l.Works k w

/-- The caller of this stop holds the only task that winds the connection down, and waits for the
graceful close of the stream. -/
structure CutsShort (l : Life) (task : Nat) : Prop where
  phase : l.phase = .disconnecting
  waits : ∃ wasUp, l.teardowns.lookup task = some ⟨.stopper, .graceful wasUp⟩
  only : ∀ k w, l.Works k w → k = task

variable {l l' : Life} {task k : Nat} {t : Teardown} {w after : Winding} {e : Event} {side : Side}
  {es : List Event}

/-! ## Who goes on working -/

theorem works_congr (h : l'.teardowns = l.teardowns) : l'.Works k w ↔ l.Works k w := by
  unfold Works
  rw [h]

theorem works_stepTeardown_of_ne (hne : k ≠ task) (h : l.Works k w) :
    (l.stepTeardown task t).Works k w := by
  rcases stepTeardown_teardowns l task t with hsame | ⟨after, hafter⟩
  · exact (works_congr hsame).mpr h
  · exact (works_congr hafter).mpr (works_setTeardown_of_ne hne h)

/-- The task at work comes to its next step, or is through with the teardown. -/
theorem works_stepTeardown_self (ht : l.teardowns.lookup task = some t)
    (hw : t.progress.isWorking = true) : (∃ w', (l.stepTeardown task t).Works task w') ∨
      (l.stepTeardown task t).phase = .disconnected := by
  obtain ⟨actor, progress⟩ := t
  have hset : ∀ (l' : Life) (after : Winding), l'.teardowns = l.teardowns →
      after.isWorking = true → (l'.setTeardown task after).Works task after := by
    intro l' after hsame hafter
    rw [← hsame] at ht
    exact works_setTeardown_self ht hafter
  cases progress with
  | shutting wasUp =>
    simp only [stepTeardown]
    split
    · exact Or.inl ⟨_, hset l _ rfl rfl⟩
    · exact Or.inl ⟨_, hset _ _ rfl rfl⟩
  | graceful wasUp => exact Or.inl ⟨_, hset l _ rfl rfl⟩
  | socket wasUp => exact Or.inl ⟨_, hset _ _ rfl rfl⟩
  | tabling wasUp => exact Or.inl ⟨_, hset _ _ rfl rfl⟩
  | draining wasUp =>
    simp only [stepTeardown]
    split
    · exact Or.inl ⟨_, hset l _ rfl rfl⟩
    · exact Or.inl ⟨.draining wasUp, rfl, _, ht, rfl⟩
  | marking wasUp => exact Or.inr rfl
  | looking | noticing | entering | waiting | done | dropped => cases hw

theorem works_append (h : l.Works k w) (hafter : l'.teardowns = l.teardowns ++ [(task, t)]) :
    l'.Works k w := by
  obtain ⟨hw, t', ht', hprogress⟩ := h
  refine ⟨hw, t', ?_, hprogress⟩
  rw [hafter, lookup_concat, ht', Option.some_or]

/-- A task at work goes on, unless it is through or its caller takes it away. -/
theorem works_step (h : l.Works k w) : (∃ w', (l.step e).Works k w') ∨
    (l.step e).phase = .disconnected ∨
      e = .drop k ∧ ∃ wasUp, l.teardowns.lookup k = some ⟨.stopper, .graceful wasUp⟩ := by
  cases step_winds l e with
  | same hsame => exact Or.inl ⟨w, (works_congr hsame).mpr h⟩
  | brings task t _ _ hafter => exact Or.inl ⟨w, works_append h hafter⟩
  | goes task t _ ht hafter =>
    rw [hafter]
    by_cases hk : k = task
    · subst hk
      have hprogress := progress_of_works ht h
      exact (works_stepTeardown_self ht (hprogress ▸ h.1)).imp_right Or.inl
    · exact Or.inl ⟨w, works_stepTeardown_of_ne hk h⟩
  | drops task t he ht hafter =>
    rw [hafter]
    unfold dropTeardown
    split
    · rename_i hdrops
      by_cases hk : k = task
      · subst hk
        obtain ⟨actor, progress⟩ := t
        obtain ⟨rfl, hwaits⟩ := hdrops
        cases progress_of_works ht h
        have hwork := h.1
        cases progress with
        | graceful wasUp => exact Or.inr (Or.inr ⟨he, wasUp, ht⟩)
        | noticing | waiting => cases hwork
        | looking | entering | shutting | socket | tabling | draining | marking | done
        | dropped => cases hwaits
      · exact Or.inl ⟨w, works_setTeardown_of_ne hk h⟩
    · exact Or.inl ⟨w, h⟩

/-- Whoever makes a connection wind down begins to work on it. -/
theorem works_of_enter (hphase : (l.step e).phase = .disconnecting)
    (hnot : l.phase ≠ .disconnecting) : ∃ k w, (l.step e).Works k w := by
  rcases step_phase l e with hkept | ⟨p, hsets, hmoves⟩
  · exact absurd (hkept.1.symm.trans hphase) hnot
  · rw [hmoves.1] at hphase
    subst hphase
    cases hsets with
    | enter task hup =>
      have hmoved := hmoves.1
      simp only [step] at hmoved ⊢
      split
      · rename_i t ht
        rw [ht] at hmoved
        obtain ⟨actor, progress⟩ := t
        cases progress with
        | entering =>
          simp only [stepTeardown, hup, Bool.false_eq_true, if_false]
          exact ⟨task, _, works_setTeardown_self (l := l.setPhase .disconnecting) ht rfl⟩
        | marking => cases hmoved
        | shutting | draining | waiting =>
          simp only [stepTeardown] at hmoved
          split at hmoved <;> exact absurd hmoved hnot
        | looking | noticing | graceful | socket | tabling | done | dropped =>
          exact absurd hmoved hnot
      · rename_i hnone
        rw [hnone] at hmoved
        exact absurd hmoved hnot

/-! ## How a connection is stranded -/

theorem not_isWorking_of_not_isLive (h : w.isLive = false) : w.isWorking = false := by
  cases w <;> first | rfl | cases h

theorem stranded_of_isQuiet (h : l.IsQuiet) (hphase : l.phase = .disconnecting) :
    l.Stranded := by
  refine ⟨hphase, ?_⟩
  rintro k w ⟨hw, t, ht, rfl⟩
  rw [not_isWorking_of_not_isLive (h _ (mem_of_lookup ht))] at hw
  cases hw

theorem CutsShort.strands (h : l.CutsShort task) : (l.step (.drop task)).Stranded := by
  obtain ⟨wasUp, ht⟩ := h.waits
  simp only [step, ht, dropTeardown, Winding.waits, and_self, if_true]
  exact ⟨h.phase, Stands.idle_of_only h.only rfl⟩

theorem cutsShort_of_strands (h : ¬ l.Stranded) (hs : (l.step e).Stranded) :
    ∃ task, e = .drop task ∧ l.CutsShort task := by
  obtain ⟨hphase, hidle⟩ := hs
  have hdrops : ∀ k w, l.Works k w → e = .drop k ∧
      ∃ wasUp, l.teardowns.lookup k = some ⟨.stopper, .graceful wasUp⟩ := by
    intro k w hw
    rcases works_step (e := e) hw with ⟨w', hw'⟩ | hgone | hdrop
    · exact absurd hw' (hidle k w')
    · rw [hphase] at hgone
      cases hgone
    · exact hdrop
  by_cases hold : l.phase = .disconnecting
  · have hworks : ∃ k w, l.Works k w := by
      by_contra hnone
      exact h ⟨hold, fun k w hw => hnone ⟨k, w, hw⟩⟩
    obtain ⟨k, w, hw⟩ := hworks
    obtain ⟨rfl, hwaits⟩ := hdrops k w hw
    exact ⟨k, rfl, hold, hwaits, fun k' w' hw' => (Event.drop.inj (hdrops k' w' hw').1).symm⟩
  · obtain ⟨k, w, hw⟩ := works_of_enter hphase hold
    exact absurd hw (hidle k w)

/-- A connection is stranded in a run exactly if a caller cuts its teardown short. -/
theorem stranded_iff (side : Side) (es : List Event) :
    (∃ front back, es = front ++ back ∧ ((new side).run front).Stranded) ↔
      ∃ front task back, es = front ++ .drop task :: back ∧
        ((new side).run front).CutsShort task := by
  constructor
  · rintro ⟨front, back, hes, hs⟩
    induction front using List.reverseRecOn generalizing back with
    | nil => cases hs.1
    | append_singleton front e ih =>
      rw [List.append_assoc, List.singleton_append] at hes
      by_cases hearlier : ((new side).run front).Stranded
      · exact ih (e :: back) hes hearlier
      · rw [run_concat] at hs
        obtain ⟨task, rfl, hcuts⟩ := cutsShort_of_strands hearlier hs
        exact ⟨front, task, back, hes, hcuts⟩
  · rintro ⟨front, task, back, rfl, hcuts⟩
    refine ⟨front ++ [.drop task], back, by simp, ?_⟩
    rw [run_concat]
    exact hcuts.strands

theorem Stranded.keep (h : l.Stranded) (hphase : l'.phase = l.phase)
    (hworks : ∀ k w, l'.Works k w ↔ l.Works k w) : l'.Stranded :=
  ⟨hphase.trans h.1, fun k w hw => h.2 k w ((hworks k w).mp hw)⟩

theorem Stranded.isWorking_eq_false (h : l.Stranded) (ht : l.teardowns.lookup task = some t) :
    t.progress.isWorking = false := by
  by_contra hw
  exact h.2 task t.progress ⟨Bool.not_eq_false _ ▸ hw, t, ht, rfl⟩

theorem Stranded.setIdle (h : l.Stranded) (ht : l.teardowns.lookup task = some t)
    (hafter : after.isWorking = false) : (l.setTeardown task after).Stranded :=
  h.keep rfl fun _ _ => works_setTeardown_iff ht (h.isWorking_eq_false ht) hafter

theorem Stranded.stepTeardown (h : l.Stranded) (ht : l.teardowns.lookup task = some t) :
    (l.stepTeardown task t).Stranded := by
  have hidle := h.isWorking_eq_false ht
  obtain ⟨actor, progress⟩ := t
  cases progress with
  | looking =>
    refine h.setIdle ht ?_
    split <;> rfl
  | noticing => exact h.setIdle ht rfl
  | entering =>
    have hover : l.phase.isOver = true := by rw [h.1]; rfl
    simp only [Life.stepTeardown, hover, if_true]
    exact h.setIdle ht (Stands.rest_idle actor)
  | waiting =>
    simp only [Life.stepTeardown]
    split
    · exact h.setIdle ht rfl
    · exact h
  | done | dropped => exact h
  | shutting | graceful | socket | tabling | draining | marking => cases hidle

/-! ## Once the start is over -/

theorem step_start_of_started (h : l.starting = .running ∨ l.starting = .ended) :
    l.step .start = l := by
  rw [Life.step, stepStart]
  rcases h with hs | hs <;> rw [hs]

theorem step_greeted_of_started (h : l.starting = .running ∨ l.starting = .ended)
    (success : Bool) : l.step (.greeted success) = l := by
  have hne : l.starting ≠ .greeting := by
    rcases h with hs | hs <;> simp [hs]
  rw [Life.step, greeted, if_neg hne]

theorem started_step (h : l.starting = .running ∨ l.starting = .ended) (e : Event) :
    (l.step e).starting = .running ∨ (l.step e).starting = .ended := by
  cases e with
  | start =>
    rw [step_start_of_started h]
    exact h
  | greeted success =>
    rw [step_greeted_of_started h]
    exact h
  | loopEnds task =>
    simp only [step]
    split
    · exact Or.inr rfl
    · exact h
  | wind task =>
    simp only [step]
    split
    · rw [stepTeardown_starting]
      exact h
    · exact h
  | drop task =>
    simp only [step, dropTeardown]
    split
    · split <;> exact h
    · exact h
  | beginStop task | writeFails task | call task | race q =>
    simp only [step, call]
    split <;> exact h

/-- Nothing takes a connection back whose start is over. -/
theorem isOver_step (h : l.phase.isOver = true)
    (hstarted : l.starting = .running ∨ l.starting = .ended) (e : Event) :
    (l.step e).phase.isOver = true := by
  rcases step_phase l e with hkept | ⟨p, hsets, hmoves⟩
  · rw [hkept.1]
    exact h
  · rw [hmoves.1]
    cases hsets with
    | enter | settle => rfl
    | greet hs | mark hs =>
      rw [hs] at hstarted
      rcases hstarted with hs | hs <;> cases hs

theorem Stranded.step (h : l.Stranded) (hstarted : l.starting = .running ∨ l.starting = .ended)
    (e : Event) : (l.step e).Stranded := by
  have hworks : ∀ k w, ¬ (l.step e).Works k w := by
    intro k w hw
    cases step_winds l e with
    | same hsame => exact h.2 k w ((works_congr hsame).mp hw)
    | brings task t _ hcomes hafter =>
      have hidle : t.progress.isWorking = false := by
        rcases hcomes with hprogress | hprogress <;> rw [hprogress] <;> rfl
      exact h.2 k w ((works_addTeardown_iff hidle).mp ((works_congr hafter).mp hw))
    | goes task t _ ht hafter =>
      rw [hafter] at hw
      exact (h.stepTeardown ht).2 k w hw
    | drops task t _ ht hafter =>
      rw [hafter] at hw
      unfold dropTeardown at hw
      split at hw
      · exact (h.setIdle ht rfl).2 k w hw
      · exact h.2 k w hw
  refine ⟨?_, hworks⟩
  rcases step_phase l e with hkept | ⟨p, hsets, -⟩
  · exact hkept.1.trans h.1
  · cases hsets with
    | enter task hup =>
      rw [h.1] at hup
      cases hup
    | settle task =>
      simp only [Life.step]
      split
      · exact (h.stepTeardown ‹_›).1
      · exact h.1
    | greet hs | mark hs =>
      rw [hs] at hstarted
      rcases hstarted with hs | hs <;> cases hs

/-- Once the start is over nothing helps a stranded connection, no later stop, failed write or end
of the receive loop. -/
theorem Stranded.run (h : l.Stranded) (hstarted : l.starting = .running ∨ l.starting = .ended)
    (es : List Event) : (l.run es).Stranded := by
  induction es generalizing l with
  | nil => exact h
  | cons e es ih =>
    exact ih (h.step hstarted e) (started_step hstarted e)

/-! ## What is done when all is quiet -/

/-- A closing of the table is that of a teardown that has come so far. -/
structure Drained (l : Life) : Prop where
  keys : (l.race.closers.map Prod.fst).Nodup
  draining : ∀ k c, l.race.closers.lookup k = some c → c ≠ .done →
    ∃ wasUp, l.Works k (.draining wasUp)
  enrolled : ∀ k wasUp, l.Works k (.draining wasUp) → l.race.closers.lookup k ≠ none
  marking : ∀ k wasUp, l.Works k (.marking wasUp) → l.race.closers.lookup k = some .done
  gone : l.phase = .disconnected → ∃ k, l.race.closers.lookup k = some .done

theorem works_setTeardown_closing (ht : l.teardowns.lookup task = some t)
    (hbefore : t.progress.closesTable = false) (hafter : after.closesTable = false)
    (hw : w.closesTable) : (l.setTeardown task after).Works k w ↔ l.Works k w := by
  constructor
  · intro h
    rcases works_of_setTeardown h with ⟨-, rfl⟩ | ⟨-, hold⟩
    · rw [hafter] at hw
      cases hw
    · exact hold
  · intro h
    refine works_setTeardown_of_ne ?_ h
    rintro rfl
    rw [progress_of_works ht h, hbefore] at hw
    cases hw

namespace Drained

theorem keep (h : Drained l) (hclosers : l'.race.closers = l.race.closers)
    (hphase : l'.phase = .disconnected → l.phase = .disconnected)
    (hworks : ∀ k w, w.closesTable → (l'.Works k w ↔ l.Works k w)) : Drained l' where
  keys := hclosers ▸ h.keys
  draining k c hc hne := by
    rw [hclosers] at hc
    obtain ⟨wasUp, hw⟩ := h.draining k c hc hne
    exact ⟨wasUp, (hworks k _ rfl).mpr hw⟩
  enrolled k wasUp hw := hclosers ▸ h.enrolled k wasUp ((hworks k _ rfl).mp hw)
  marking k wasUp hw := hclosers ▸ h.marking k wasUp ((hworks k _ rfl).mp hw)
  gone hp := hclosers ▸ h.gone (hphase hp)

theorem setTeardown (h : Drained l) (ht : l.teardowns.lookup task = some t)
    (hbefore : t.progress.closesTable = false) (hafter : after.closesTable = false) :
    Drained (l.setTeardown task after) :=
  h.keep rfl id fun _ _ hw => works_setTeardown_closing ht hbefore hafter hw

theorem addTeardown (h : Drained l) (ht : t.progress.isWorking = false) :
    Drained (l.addTeardown task t) :=
  h.keep rfl id fun _ _ _ => works_addTeardown_iff ht

theorem rest_closes (actor : TeardownActor) : (rest actor).closesTable = false := by
  cases actor <;> rfl

/-- The teardown begins to close the table. -/
theorem table (h : Drained l) {actor : TeardownActor} {wasUp : Bool}
    (ht : l.teardowns.lookup task = some ⟨actor, .tabling wasUp⟩) (closings : Nat) :
    Drained ({ l with race := l.race.step (.beginClose task), closings }.setTeardown task
      (.draining wasUp)) := by
  have hother : ∀ k, k ≠ task →
      (l.race.step (.beginClose task)).closers.lookup k = l.race.closers.lookup k := by
    intro k hk
    cases hc : l.race.closers.lookup task with
    | some c => rw [Race.beginClose_of_some hc]
    | none => rw [Race.beginClose_closers hc, lookup_concat, if_neg hk, Option.or_none]
  have hdone : ∀ k, l.race.closers.lookup k = some .done →
      (l.race.step (.beginClose task)).closers.lookup k = some .done := by
    intro k hk
    by_cases heq : k = task
    · subst heq
      rw [Race.beginClose_of_some hk]
      exact hk
    · rw [hother k heq]
      exact hk
  have hself : ({ l with race := l.race.step (.beginClose task), closings }.setTeardown task
      (.draining wasUp)).Works task (.draining wasUp) := works_setTeardown_self ht rfl
  constructor
  · cases hc : l.race.closers.lookup task with
    | some c =>
      have hkeys := h.keys
      rw [← Race.beginClose_of_some hc] at hkeys
      exact hkeys
    | none =>
      have hkeys : ((l.race.closers ++ [(task, Closing.begun)]).map Prod.fst).Nodup := by
        rw [List.map_append, List.nodup_append]
        refine ⟨h.keys, List.pairwise_singleton _ _, ?_⟩
        rintro k hk _ htask rfl
        cases List.mem_singleton.mp htask
        obtain ⟨x, hx, heq⟩ := List.mem_map.mp hk
        exact ne_of_lookup_eq_none hc hx heq
      rw [← Race.beginClose_closers hc] at hkeys
      exact hkeys
  · intro k c hc hne
    by_cases heq : k = task
    · exact ⟨wasUp, heq ▸ hself⟩
    · obtain ⟨wasUp', hw⟩ := h.draining k c ((hother k heq).symm.trans hc) hne
      exact ⟨wasUp', works_setTeardown_of_ne heq hw⟩
  · intro k wasUp' hw
    change (l.race.step (.beginClose task)).closers.lookup k ≠ none
    rcases works_of_setTeardown hw with ⟨rfl, -⟩ | ⟨hne, hold⟩
    · cases hc : l.race.closers.lookup k with
      | some c =>
        rw [Race.beginClose_of_some hc, hc]
        exact Option.some_ne_none c
      | none =>
        rw [Race.beginClose_closers hc, lookup_concat, hc, if_pos rfl]
        exact Option.some_ne_none _
    · rw [hother k hne]
      exact h.enrolled k wasUp' hold
  · intro k wasUp' hw
    rcases works_of_setTeardown hw with ⟨-, hnow⟩ | ⟨-, hold⟩
    · cases hnow
    · exact hdone k (h.marking k wasUp' hold)
  · intro hp
    obtain ⟨k, hk⟩ := h.gone hp
    exact ⟨k, hdone k hk⟩

/-- The closing of the table goes on. -/
theorem close (h : Drained l) {actor : TeardownActor} {wasUp : Bool}
    (ht : l.teardowns.lookup task = some ⟨actor, .draining wasUp⟩)
    (hopen : l.race.closers.lookup task ≠ some .done) :
    Drained { l with race := l.race.step (.close task) } := by
  cases hc : l.race.closers.lookup task with
  | none =>
    have hsame : l.race.step (.close task) = l.race := by simp [Race.step, hc]
    rw [hsame]
    exact h
  | some c =>
    have hne : c ≠ .done := by
      rintro rfl
      exact hopen hc
    obtain ⟨c', hc'⟩ := Race.stepClose_setCloser l.race task hne
    have hclosers : (l.race.step (.close task)).closers = (l.race.setCloser task c').closers := by
      simp only [Race.step, hc]
      exact hc'
    have hlookup : ∀ k, (l.race.step (.close task)).closers.lookup k =
        if k = task then some c' else l.race.closers.lookup k := by
      intro k
      rw [hclosers, Race.lookup_setCloser]
      split
      · rename_i hk
        rw [hk, hc]
        rfl
      · rfl
    have hdone : ∀ k, l.race.closers.lookup k = some .done →
        (l.race.step (.close task)).closers.lookup k = some .done := by
      intro k hk
      have hkt : k ≠ task := by
        rintro rfl
        exact hopen hk
      rw [hlookup, if_neg hkt]
      exact hk
    constructor
    · have hkeys := h.keys
      rw [← Race.keys_setCloser l.race task c', ← hclosers] at hkeys
      exact hkeys
    · intro k c'' hk hne'
      by_cases heq : k = task
      · exact ⟨wasUp, rfl, _, heq ▸ ht, rfl⟩
      · dsimp only at hk
        rw [hlookup, if_neg heq] at hk
        exact h.draining k c'' hk hne'
    · intro k wasUp' hw
      dsimp only
      rw [hlookup]
      split
      · exact Option.some_ne_none c'
      · exact h.enrolled k wasUp' hw
    · exact fun k wasUp' hw => hdone k (h.marking k wasUp' hw)
    · intro hp
      obtain ⟨k, hk⟩ := h.gone hp
      exact ⟨k, hdone k hk⟩

/-- A teardown whose closing is done goes on to the end. -/
theorem pass (h : Drained l) (hdone : l.race.closers.lookup task = some .done)
    (hteardowns : l'.teardowns = (l.setTeardown task after).teardowns)
    (hclosers : l'.race.closers = l.race.closers) : Drained l' := by
  constructor
  · exact hclosers ▸ h.keys
  · intro k c hc hne
    rw [hclosers] at hc
    have hk : k ≠ task := by
      rintro rfl
      rw [hdone] at hc
      exact hne (Option.some.inj hc).symm
    obtain ⟨wasUp, hw⟩ := h.draining k c hc hne
    exact ⟨wasUp, (works_congr hteardowns).mpr (works_setTeardown_of_ne hk hw)⟩
  · intro k wasUp hw
    rw [hclosers]
    rcases works_of_setTeardown ((works_congr hteardowns).mp hw) with ⟨rfl, -⟩ | ⟨-, hold⟩
    · rw [hdone]
      exact Option.some_ne_none _
    · exact h.enrolled k wasUp hold
  · intro k wasUp hw
    rw [hclosers]
    rcases works_of_setTeardown ((works_congr hteardowns).mp hw) with ⟨rfl, -⟩ | ⟨-, hold⟩
    · exact hdone
    · exact h.marking k wasUp hold
  · exact fun _ => ⟨task, hclosers ▸ hdone⟩

theorem stepTeardown (h : Drained l) (ht : l.teardowns.lookup task = some t) :
    Drained (l.stepTeardown task t) := by
  obtain ⟨actor, progress⟩ := t
  cases progress with
  | looking =>
    refine h.setTeardown ht rfl ?_
    split <;> rfl
  | noticing => exact h.setTeardown ht rfl rfl
  | entering =>
    simp only [Life.stepTeardown]
    split
    · exact h.setTeardown ht rfl (rest_closes actor)
    · exact h.keep rfl Phase.noConfusion fun _ _ hw =>
        works_setTeardown_closing (l := l.setPhase .disconnecting) ht rfl rfl hw
  | shutting wasUp =>
    simp only [Life.stepTeardown]
    split
    · exact h.setTeardown ht rfl rfl
    · exact h.keep rfl id fun _ _ hw =>
        works_setTeardown_closing (l := { l with shut := true, shutdowns := _ }) ht rfl rfl hw
  | graceful wasUp => exact h.setTeardown ht rfl rfl
  | socket wasUp =>
    exact h.keep rfl id fun _ _ hw =>
      works_setTeardown_closing (l := { l with socketClosed := true }) ht rfl rfl hw
  | tabling wasUp => exact h.table ht _
  | draining wasUp =>
    simp only [Life.stepTeardown]
    split
    · exact h.pass ‹_› rfl rfl
    · exact h.close ht ‹_›
  | marking wasUp => exact h.pass (h.marking task wasUp ⟨rfl, _, ht, rfl⟩) rfl rfl
  | waiting =>
    simp only [Life.stepTeardown]
    split
    · exact h.setTeardown ht rfl rfl
    · exact h
  | done | dropped => exact h

theorem step (h : Drained l) (e : Event) : Drained (l.step e) := by
  have hphase : ∀ {l' : Life}, l'.phase ≠ .disconnected → l'.race.closers = l.race.closers →
      l'.teardowns = l.teardowns → Drained l' := fun hne hclosers hsame =>
    h.keep hclosers (fun hp => absurd hp hne) fun _ _ _ => works_congr hsame
  have hsame : ∀ {l' : Life}, l'.phase = l.phase → l'.race.closers = l.race.closers →
      l'.teardowns = l.teardowns → Drained l' := fun hp hclosers hsame =>
    h.keep hclosers (fun hp' => hp.symm.trans hp') fun _ _ _ => works_congr hsame
  cases e with
  | start =>
    simp only [Life.step, stepStart]
    split
    · split
      · exact hphase Phase.noConfusion rfl rfl
      · exact hsame rfl rfl rfl
    · split
      · exact Drained.addTeardown (hsame rfl rfl rfl) rfl
      · exact hsame rfl rfl rfl
    · exact hphase Phase.noConfusion rfl rfl
    · exact h
    · exact h
    · exact h
  | greeted success =>
    simp only [Life.step, greeted]
    split
    · split
      · exact hsame rfl rfl rfl
      · exact Drained.addTeardown (hsame rfl rfl rfl) rfl
    · exact h
  | loopEnds task | beginStop task | writeFails task =>
    simp only [Life.step]
    split
    · exact Drained.addTeardown (hsame rfl rfl rfl) rfl
    · exact h
  | wind task =>
    simp only [Life.step]
    split
    · exact h.stepTeardown ‹_›
    · exact h
  | drop task =>
    simp only [Life.step]
    split
    · rename_i t ht
      unfold dropTeardown
      split
      · rename_i hdrops
        obtain ⟨actor, progress⟩ := t
        have hcloses : progress.closesTable = false := by
          cases progress <;> first | rfl | cases hdrops.2
        exact h.setTeardown ht hcloses rfl
      · exact h
    · exact h
  | call task =>
    simp only [Life.step, Life.call]
    split
    · exact hsame rfl (Race.beginRegister_closers l.race task) rfl
    · exact hsame rfl rfl rfl
  | race q =>
    simp only [Life.step]
    split
    · exact hsame rfl (Race.step_closers_of_outside ‹_›) rfl
    · exact h

end Drained

theorem drained_run (side : Side) (es : List Event) : Drained ((new side).run es) := by
  induction es using List.reverseRecOn with
  | nil =>
    have hidle : ∀ k w, ¬ ((new side).run []).Works k w := by
      rintro k w ⟨-, t, ht, -⟩
      cases ht
    exact ⟨List.nodup_nil, nofun, fun k _ hw => absurd hw (hidle k _),
      fun k _ hw => absurd hw (hidle k _), nofun⟩
  | append_singleton es e ih =>
    rw [run_concat]
    exact ih.step e

/-- The connection is gone, and so are the calls that waited. -/
structure Settled (side : Side) (es : List Event) : Prop where
  phase : ((new side).run es).phase = .disconnected
  emptied : Emptied side es

theorem settled_of_isQuiet (hquiet : ((new side).run es).IsQuiet)
    (hstranded : ¬ ((new side).run es).Stranded)
    (hover : ((new side).run es).phase.isOver = true) : Settled side es := by
  have hphase : ((new side).run es).phase = .disconnected := by
    cases hp : ((new side).run es).phase with
    | created | connecting | connected =>
      rw [hp] at hover
      cases hover
    | disconnecting => exact absurd (stranded_of_isQuiet hquiet hp) hstranded
    | disconnected => rfl
  have hdrained := drained_run side es
  obtain ⟨task, hdone⟩ := hdrained.gone hphase
  refine ⟨hphase, emptied_of_done hdone fun c hc => ?_⟩
  by_contra hne
  obtain ⟨wasUp, -, t, ht, hprogress⟩ :=
    hdrained.draining c.1 c.2 (lookup_of_mem hdrained.keys hc) hne
  have hlive := hquiet _ (mem_of_lookup ht)
  rw [hprogress] at hlive
  cases hlive

/-- No state of a run has a connection wind down without a task that winds it down, and when no task
has teardown left the connection is not over or all is settled, exactly if no caller of a stop goes
away when it holds the only such task. -/
theorem comes_to_end_iff (side : Side) (es : List Event) :
    (∀ front back, es = front ++ back → ¬ ((new side).run front).Stranded ∧
      (((new side).run front).IsQuiet →
        ((new side).run front).phase.isOver = false ∨ Settled side front)) ↔
      ∀ front task back, es = front ++ .drop task :: back →
        ¬ ((new side).run front).CutsShort task := by
  constructor
  · intro h front task back hes hcuts
    obtain ⟨front', back', hes', hs⟩ := (stranded_iff side es).mpr ⟨front, task, back, hes, hcuts⟩
    exact (h front' back' hes').1 hs
  · intro h front back hes
    have hstranded : ¬ ((new side).run front).Stranded := by
      intro hs
      obtain ⟨front', task, back', hes', hcuts⟩ := (stranded_iff side es).mp ⟨front, back, hes, hs⟩
      exact h front' task back' hes' hcuts
    refine ⟨hstranded, fun hquiet => ?_⟩
    cases hover : ((new side).run front).phase.isOver with
    | false => exact Or.inl rfl
    | true => exact Or.inr (settled_of_isQuiet hquiet hstranded hover)

/-- A call waits when a stop has come to the graceful close and its caller goes away. Another stop
finds that the connection winds down, and waits. -/
def forsakenStop : List Event :=
  [.start, .start, .start, .call 7, .race (.register 7), .race (.register 7), .race (.register 7),
    .race (.register 7), .beginStop 1, .wind 1, .wind 1, .wind 1, .wind 1, .drop 1, .beginStop 2,
    .wind 2, .wind 2]

instance (l : Life) : Decidable l.IsQuiet := inferInstanceAs (Decidable (∀ _ ∈ _, _))

/-- No task has teardown left, the call waits, and nothing that may come changes the phase. -/
theorem forsakenStop_stranded :
    ((new .server).run forsakenStop).IsQuiet ∧
      ((new .server).run forsakenStop).race.waiting = [(2, 7)] ∧
        ∀ later, ((new .server).run (forsakenStop ++ later)).phase = .disconnecting := by
  have hquiet : ((new .server).run forsakenStop).IsQuiet := by decide
  have hstranded := stranded_of_isQuiet hquiet rfl
  refine ⟨hquiet, rfl, fun later => ?_⟩
  rw [run_append]
  exact (hstranded.run (Or.inl rfl) later).1

end Life

end Rpc
