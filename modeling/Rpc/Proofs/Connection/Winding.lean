import Rpc.Proofs.Call.Entries
import Rpc.Proofs.Connection.Phases

/-! # One task winds a connection down

A connection that came up untouched is wound down by the one task that moved the phase on. How far
that task has come tells what has been done: the stream shut, the socket closed, the table closed.
The others find the connection over and do nothing.
-/
namespace Rpc

namespace Race

variable {r : Race} {task n : Nat}

theorem stepRegister_closers (r : Race) (task : Nat) (g : Registering) :
    (r.stepRegister task g).closers = r.closers := by
  cases g with
  | drawn n =>
    simp only [stepRegister]
    split <;> rfl
  | withdrawing n => exact take_closers r n _
  | begun | looked | entered n | registered n | refused => rfl

theorem beginRegister_closers (r : Race) (task : Nat) :
    (r.step (.beginRegister task)).closers = r.closers := by
  simp only [step]
  split <;> rfl

/-- Only closings touch the closings. -/
theorem step_closers_of_outside {e : Event} (h : Life.isOutside e = true) :
    (r.step e).closers = r.closers := by
  cases e with
  | register task =>
    simp only [step]
    split
    · exact stepRegister_closers r task _
    · rfl
  | allocate => rfl
  | complete n reply => exact take_closers r n _
  | remove n => exact take_closers r n _
  | beginRegister task | beginClose task | close task => cases h

theorem stepClose_closers {c : Closing} (h : r.closers = [(task, c)]) :
    ∃ c', (r.stepClose task c).closers = [(task, c')] := by
  have hset : ∀ (q : Race) (after : Closing), q.closers = r.closers →
      (q.setCloser task after).closers = [(task, after)] := by
    intro q after hq
    simp [setCloser, hq, h]
  cases c with
  | begun => exact ⟨.flagged, hset _ _ rfl⟩
  | flagged => exact ⟨_, hset r _ rfl⟩
  | draining left =>
    cases left with
    | nil => exact ⟨_, hset r _ rfl⟩
    | cons n left => exact ⟨_, hset _ _ (take_closers r n _)⟩
  | done => exact ⟨.done, h⟩

theorem step_close_closers {c : Closing} (h : r.closers = [(task, c)]) :
    ∃ c', (r.step (.close task)).closers = [(task, c')] := by
  have hlookup : r.closers.lookup task = some c := by rw [h, List.lookup_cons_self]
  simp only [step, hlookup]
  exact stepClose_closers h

end Race

namespace Life

/-! ## What has been done -/

structure Deeds where
  shut : Bool
  socketClosed : Bool
  shutdowns : Nat
  closings : Nat
  closers : List (Nat × Closing)

def deeds (l : Life) : Deeds :=
  ⟨l.shut, l.socketClosed, l.shutdowns, l.closings, l.race.closers⟩

namespace Deeds

def untouched : Deeds := ⟨false, false, 0, 0, []⟩

def streamShut : Deeds := ⟨true, false, 1, 0, []⟩

def socketShut : Deeds := ⟨true, true, 1, 0, []⟩

def tabled (task : Nat) (c : Closing) : Deeds := ⟨true, true, 1, 1, [(task, c)]⟩

end Deeds

/-- What has been done when the task that winds the connection down has come so far. -/
def Fits (task : Nat) : Winding → Deeds → Prop
  | .shutting _, d => d = .untouched
  | .graceful _, d | .socket _, d => d = .streamShut
  | .tabling _, d => d = .socketShut
  | .draining _, d => ∃ c, d = .tabled task c
  | .marking _, d => d = .tabled task .done
  | .looking, _ | .noticing, _ | .entering, _ | .waiting, _ | .done, _ | .dropped, _ => False

/-- The task winds the connection down, and has come so far. -/
def Works (l : Life) (task : Nat) (w : Winding) : Prop :=
  w.isWorking = true ∧ ∃ t, l.teardowns.lookup task = some t ∧ t.progress = w

/-- A connection that came up untouched is up, or one task winds it down, or that task was dropped
while it waited, or it is gone. -/
inductive Stands (l : Life) : Prop
  | up (hphase : l.phase = .connected) (hdeeds : l.deeds = .untouched)
      (hidle : ∀ k w, ¬ l.Works k w)
  | winding (hphase : l.phase = .disconnecting) (task : Nat) (w : Winding) (hworks : l.Works task w)
      (honly : ∀ k v, l.Works k v → k = task) (hfits : Fits task w l.deeds)
  | forsaken (hphase : l.phase = .disconnecting) (hdeeds : l.deeds = .streamShut)
      (hidle : ∀ k w, ¬ l.Works k w)
  | gone (hphase : l.phase = .disconnected) (task : Nat) (hdeeds : l.deeds = .tabled task .done)
      (hidle : ∀ k w, ¬ l.Works k w)

structure Orderly (l : Life) : Prop where
  started : l.starting = .running ∨ l.starting = .ended
  stands : l.Stands

variable {l l' : Life} {task k : Nat} {t : Teardown} {w after : Winding} {e : Event}

theorem deeds_eq_iff {shut socketClosed : Bool} {shutdowns closings : Nat}
    {closers : List (Nat × Closing)} :
    l.deeds = ⟨shut, socketClosed, shutdowns, closings, closers⟩ ↔
      l.shut = shut ∧ l.socketClosed = socketClosed ∧ l.shutdowns = shutdowns ∧
        l.closings = closings ∧ l.race.closers = closers := by
  simp only [deeds, Deeds.mk.injEq]

/-! ## The tasks at work -/

theorem lookup_setTeardown (l : Life) (task : Nat) (after : Winding) (k : Nat) :
    (l.setTeardown task after).teardowns.lookup k =
      if k = task then (l.teardowns.lookup k).map fun t => { t with progress := after }
      else l.teardowns.lookup k :=
  lookup_modify (fun t : Teardown => { t with progress := after }) l.teardowns task k

theorem works_of_setTeardown (h : (l.setTeardown task after).Works k w) :
    k = task ∧ w = after ∨ k ≠ task ∧ l.Works k w := by
  obtain ⟨hw, t, ht, rfl⟩ := h
  rw [lookup_setTeardown] at ht
  split at ht
  · obtain ⟨t', -, rfl⟩ := Option.map_eq_some_iff.mp ht
    exact Or.inl ⟨‹_›, rfl⟩
  · exact Or.inr ⟨‹_›, hw, t, ht, rfl⟩

theorem works_setTeardown_self (ht : l.teardowns.lookup task = some t)
    (hw : after.isWorking = true) : (l.setTeardown task after).Works task after := by
  refine ⟨hw, { t with progress := after }, ?_, rfl⟩
  rw [lookup_setTeardown, if_pos rfl, ht, Option.map_some]

theorem works_setTeardown_of_ne (hne : k ≠ task) (h : l.Works k w) :
    (l.setTeardown task after).Works k w := by
  obtain ⟨hw, t, ht, hprogress⟩ := h
  refine ⟨hw, t, ?_, hprogress⟩
  rw [lookup_setTeardown, if_neg hne]
  exact ht

theorem progress_of_works (ht : l.teardowns.lookup task = some t) (h : l.Works task w) :
    w = t.progress := by
  obtain ⟨-, t', ht', rfl⟩ := h
  rw [ht] at ht'
  cases ht'
  rfl

/-- A task that had no work and gets none changes nothing about who works. -/
theorem works_setTeardown_iff (ht : l.teardowns.lookup task = some t)
    (hbefore : t.progress.isWorking = false) (hafter : after.isWorking = false) :
    (l.setTeardown task after).Works k w ↔ l.Works k w := by
  constructor
  · intro h
    rcases works_of_setTeardown h with ⟨rfl, rfl⟩ | ⟨-, hold⟩
    · rw [h.1] at hafter
      cases hafter
    · exact hold
  · intro h
    refine works_setTeardown_of_ne ?_ h
    rintro rfl
    have hwork := h.1
    rw [progress_of_works ht h, hbefore] at hwork
    cases hwork

theorem works_addTeardown_iff (ht : t.progress.isWorking = false) :
    (l.addTeardown task t).Works k w ↔ l.Works k w := by
  have hlookup : (l.addTeardown task t).teardowns.lookup k =
      (l.teardowns.lookup k).or (if k = task then some t else none) := lookup_concat _ _ _ _
  constructor
  · rintro ⟨hw, t', ht', rfl⟩
    rw [hlookup] at ht'
    cases hold : l.teardowns.lookup k with
    | some t'' =>
      rw [hold] at ht'
      exact ⟨hw, t', hold.trans ht', rfl⟩
    | none =>
      rw [hold, Option.none_or] at ht'
      split at ht'
      · cases ht'
        rw [ht] at hw
        cases hw
      · cases ht'
  · rintro ⟨hw, t', ht', rfl⟩
    refine ⟨hw, t', ?_, rfl⟩
    rw [hlookup, ht', Option.some_or]

namespace Stands

/-! ## Steps -/

theorem keep (h : Stands l) (hphase : l'.phase = l.phase) (hdeeds : l'.deeds = l.deeds)
    (hworks : ∀ k w, l'.Works k w ↔ l.Works k w) : Stands l' := by
  have hidle : (∀ k w, ¬ l.Works k w) → ∀ k w, ¬ l'.Works k w := by
    intro hnone k w hw
    exact hnone k w ((hworks k w).mp hw)
  cases h with
  | up hp hd hnone => exact .up (hphase.trans hp) (hdeeds.trans hd) (hidle hnone)
  | winding hp task w hw honly hfits =>
    refine .winding (hphase.trans hp) task w ((hworks task w).mpr hw) ?_ (hdeeds.symm ▸ hfits)
    intro k v hv
    exact honly k v ((hworks k v).mp hv)
  | forsaken hp hd hnone => exact .forsaken (hphase.trans hp) (hdeeds.trans hd) (hidle hnone)
  | gone hp task hd hnone => exact .gone (hphase.trans hp) task (hdeeds.trans hd) (hidle hnone)

theorem setIdle (h : Stands l) (ht : l.teardowns.lookup task = some t)
    (hbefore : t.progress.isWorking = false) (hafter : after.isWorking = false) :
    Stands (l.setTeardown task after) :=
  h.keep rfl rfl fun _ _ => works_setTeardown_iff ht hbefore hafter

theorem addIdle (h : Stands l) (ht : t.progress.isWorking = false) :
    Stands (l.addTeardown task t) :=
  h.keep rfl rfl fun _ _ => works_addTeardown_iff ht

/-- A task at work is the only one, and what has been done fits. -/
theorem of_works (h : Stands l) (ht : l.teardowns.lookup task = some t)
    (hw : t.progress.isWorking = true) :
    l.phase = .disconnecting ∧ (∀ k v, l.Works k v → k = task) ∧ Fits task t.progress l.deeds := by
  have hworks : l.Works task t.progress := ⟨hw, t, ht, rfl⟩
  cases h with
  | up hp hd hnone => exact absurd hworks (hnone _ _)
  | winding hp task' w hw' honly hfits =>
    have heq := honly task _ hworks
    subst heq
    rw [progress_of_works ht hw'] at hfits
    exact ⟨hp, honly, hfits⟩
  | forsaken hp hd hnone => exact absurd hworks (hnone _ _)
  | gone hp task' hd hnone => exact absurd hworks (hnone _ _)

/-- The task at work comes further. -/
theorem goOn (hphase : l.phase = .disconnecting) (ht : l.teardowns.lookup task = some t)
    (honly : ∀ k v, l.Works k v → k = task) (hw : after.isWorking = true)
    (hfits : Fits task after l.deeds) : Stands (l.setTeardown task after) := by
  refine .winding hphase task after (works_setTeardown_self ht hw) ?_ hfits
  intro k v hv
  rcases works_of_setTeardown hv with ⟨rfl, -⟩ | ⟨-, hold⟩
  · rfl
  · exact honly k v hold

/-- When the only task at work puts it down, nobody works. -/
theorem idle_of_only (honly : ∀ k v, l.Works k v → k = task) (hafter : after.isWorking = false) :
    ∀ k w, ¬ (l.setTeardown task after).Works k w := by
  intro k w h
  rcases works_of_setTeardown h with ⟨-, rfl⟩ | ⟨hne, hold⟩
  · rw [h.1] at hafter
    cases hafter
  · exact hne (honly k w hold)

theorem rest_idle (actor : TeardownActor) : (rest actor).isWorking = false := by
  cases actor <;> rfl

/-- Who comes to a connection that is not over begins to wind it down. -/
theorem enter (h : Stands l) (ht : l.teardowns.lookup task = some t)
    (hup : l.phase.isOver = false) (wasUp : Bool) :
    Stands ((l.setPhase .disconnecting).setTeardown task (.shutting wasUp)) := by
  cases h with
  | up hp hd hnone =>
    refine goOn (l := l.setPhase .disconnecting) rfl ht ?_ rfl hd
    intro k v hv
    exact absurd hv (hnone k v)
  | winding hp | forsaken hp | gone hp =>
    rw [hp] at hup
    cases hup

theorem stepTeardown (h : Stands l) (ht : l.teardowns.lookup task = some t) :
    Stands (l.stepTeardown task t) := by
  have hworks := h.of_works ht
  obtain ⟨actor, progress⟩ := t
  cases progress with
  | looking =>
    refine h.setIdle ht rfl ?_
    split <;> rfl
  | noticing => exact h.setIdle ht rfl rfl
  | entering =>
    simp only [Life.stepTeardown]
    split
    · exact h.setIdle ht rfl (rest_idle actor)
    · rename_i hup
      exact h.enter ht (by simpa using hup) _
  | shutting wasUp =>
    obtain ⟨hphase, honly, hfits⟩ := hworks rfl
    obtain ⟨hshut, hsocket, hshutdowns, hclosings, hclosers⟩ := deeds_eq_iff.mp hfits
    simp only [Life.stepTeardown, hshut, Bool.false_eq_true, if_false]
    refine goOn (l := { l with shut := true, shutdowns := l.shutdowns + 1 }) hphase ht honly rfl ?_
    exact deeds_eq_iff.mpr ⟨rfl, hsocket, congrArg (· + 1) hshutdowns, hclosings, hclosers⟩
  | graceful wasUp =>
    obtain ⟨hphase, honly, hfits⟩ := hworks rfl
    exact goOn hphase ht honly rfl hfits
  | socket wasUp =>
    obtain ⟨hphase, honly, hfits⟩ := hworks rfl
    obtain ⟨hshut, -, hrest⟩ := deeds_eq_iff.mp hfits
    refine goOn (l := { l with socketClosed := true }) hphase ht honly rfl ?_
    exact deeds_eq_iff.mpr ⟨hshut, rfl, hrest⟩
  | tabling wasUp =>
    obtain ⟨hphase, honly, hfits⟩ := hworks rfl
    obtain ⟨hshut, hsocket, hshutdowns, hclosings, hclosers⟩ := deeds_eq_iff.mp hfits
    have hbegun : (l.race.step (.beginClose task)).closers = [(task, .begun)] := by
      simp [Race.step, hclosers]
    refine goOn (l := { l with race := l.race.step (.beginClose task), closings := l.closings + 1 })
      hphase ht honly rfl ⟨.begun, ?_⟩
    exact deeds_eq_iff.mpr ⟨hshut, hsocket, hshutdowns, congrArg (· + 1) hclosings, hbegun⟩
  | draining wasUp =>
    obtain ⟨hphase, honly, c, hfits⟩ := hworks rfl
    obtain ⟨hshut, hsocket, hshutdowns, hclosings, hclosers⟩ := deeds_eq_iff.mp hfits
    have hlookup : l.race.closers.lookup task = some c := by rw [hclosers, List.lookup_cons_self]
    simp only [Life.stepTeardown, hlookup]
    split
    · rename_i hdone
      cases hdone
      exact goOn hphase ht honly rfl hfits
    · obtain ⟨c', hc'⟩ := Race.step_close_closers hclosers
      refine .winding hphase task (.draining wasUp) ⟨rfl, _, ht, rfl⟩ honly ⟨c', ?_⟩
      exact deeds_eq_iff.mpr ⟨hshut, hsocket, hshutdowns, hclosings, hc'⟩
  | marking wasUp =>
    obtain ⟨hphase, honly, hfits⟩ := hworks rfl
    exact .gone rfl task hfits (idle_of_only honly (rest_idle actor))
  | waiting =>
    simp only [Life.stepTeardown]
    split
    · exact h.setIdle ht rfl rfl
    · exact h
  | done => exact h
  | dropped => exact h

/-- A task that winds the connection down may be dropped only while it waits for the stream. -/
theorem dropTeardown (h : Stands l) (ht : l.teardowns.lookup task = some t) :
    Stands (l.dropTeardown task t) := by
  have hworks := h.of_works ht
  obtain ⟨actor, progress⟩ := t
  simp only [Life.dropTeardown]
  split
  · rename_i hwaits
    cases progress with
    | graceful wasUp =>
      obtain ⟨hphase, honly, hfits⟩ := hworks rfl
      exact .forsaken hphase hfits (idle_of_only honly rfl)
    | noticing | waiting => exact h.setIdle ht rfl rfl
    | looking | entering | shutting wasUp | socket wasUp | tabling wasUp | draining wasUp
    | marking wasUp | done | dropped => cases hwaits.2
  · exact h

end Stands

theorem Orderly.step (h : Orderly l) (e : Event) : Orderly (l.step e) := by
  have hstands := h.stands
  have hrace : ∀ q : Race.Event, (l.race.step q).closers = l.race.closers →
      Orderly { l with race := l.race.step q } := by
    intro q hq
    refine ⟨h.started, hstands.keep rfl ?_ fun _ _ => Iff.rfl⟩
    exact deeds_eq_iff.mpr ⟨rfl, rfl, rfl, rfl, hq⟩
  cases e with
  | start =>
    have hsame : l.stepStart = l := by
      unfold stepStart
      rcases h.started with hs | hs <;> rw [hs]
    rw [Life.step, hsame]
    exact h
  | greeted success =>
    have hne : l.starting ≠ .greeting := by
      rcases h.started with hs | hs <;> simp [hs]
    rw [Life.step, Life.greeted, if_neg hne]
    exact h
  | loopEnds task =>
    simp only [Life.step]
    split
    · have hended : Stands { l with starting := .ended } :=
        hstands.keep rfl rfl fun _ _ => Iff.rfl
      exact ⟨Or.inr rfl, hended.addIdle rfl⟩
    · exact h
  | beginStop task =>
    simp only [Life.step]
    split
    · exact ⟨h.started, hstands.addIdle rfl⟩
    · exact h
  | writeFails task =>
    simp only [Life.step]
    split
    · exact ⟨h.started, hstands.addIdle rfl⟩
    · exact h
  | wind task =>
    simp only [Life.step]
    split
    · rename_i t ht
      refine ⟨?_, hstands.stepTeardown ht⟩
      rw [stepTeardown_starting]
      exact h.started
    · exact h
  | drop task =>
    simp only [Life.step]
    split
    · rename_i t ht
      refine ⟨?_, hstands.dropTeardown ht⟩
      have hkept : (l.dropTeardown task t).starting = l.starting := by
        unfold dropTeardown
        split <;> rfl
      rw [hkept]
      exact h.started
    · exact h
  | call task =>
    simp only [Life.step, Life.call]
    split
    · exact hrace _ (Race.beginRegister_closers l.race task)
    · exact ⟨h.started, hstands.keep rfl rfl fun _ _ => Iff.rfl⟩
  | race q =>
    simp only [Life.step]
    split
    · exact hrace q (Race.step_closers_of_outside ‹_›)
    · exact h

theorem run_append (es fs : List Event) : l.run (es ++ fs) = (l.run es).run fs :=
  List.foldl_append

theorem run_concat (es : List Event) (e : Event) : l.run (es ++ [e]) = (l.run es).step e :=
  run_append es [e]

theorem Orderly.run (h : Orderly l) (es : List Event) : Orderly (l.run es) := by
  induction es using List.reverseRecOn with
  | nil => exact h
  | append_singleton es e ih =>
    rw [run_concat]
    exact ih.step e

theorem Stands.deeds_le (h : Stands l) : l.shutdowns ≤ 1 ∧ l.closings ≤ 1 := by
  have hle : ∀ {shut socketClosed shutdowns closings closers},
      l.deeds = ⟨shut, socketClosed, shutdowns, closings, closers⟩ → shutdowns ≤ 1 →
        closings ≤ 1 → l.shutdowns ≤ 1 ∧ l.closings ≤ 1 := by
    intro _ _ _ _ _ hdeeds hs hc
    obtain ⟨-, -, rfl, rfl, -⟩ := deeds_eq_iff.mp hdeeds
    exact ⟨hs, hc⟩
  cases h with
  | up hp hdeeds hidle => exact hle hdeeds (by decide) (by decide)
  | winding hp task w hworks honly hfits =>
    cases w with
    | shutting | graceful | socket | tabling | marking =>
      exact hle hfits (by decide) (by decide)
    | draining =>
      obtain ⟨c, hdeeds⟩ := hfits
      exact hle hdeeds (by decide) (by decide)
    | looking | noticing | entering | waiting | done | dropped => exact hfits.elim
  | forsaken hp hdeeds hidle => exact hle hdeeds (by decide) (by decide)
  | gone hp task hdeeds hidle => exact hle hdeeds (by decide) (by decide)

/-! ## Before anybody tears it down -/

structure Fresh (l : Life) : Prop where
  deeds : l.deeds = .untouched
  up : l.starting = .running → l.phase = .connected

theorem addTeardown_ne_nil : (l.addTeardown task t).teardowns ≠ [] := by simp [addTeardown]

theorem stepTeardown_teardowns (l : Life) (task : Nat) (t : Teardown) :
    (l.stepTeardown task t).teardowns = l.teardowns ∨
      ∃ after, (l.stepTeardown task t).teardowns = (l.setTeardown task after).teardowns := by
  unfold stepTeardown
  cases t.progress with
  | entering | shutting wasUp =>
    dsimp only
    split <;> exact Or.inr ⟨_, rfl⟩
  | draining wasUp =>
    dsimp only
    split
    · exact Or.inr ⟨_, rfl⟩
    · exact Or.inl rfl
  | waiting =>
    dsimp only
    split
    · exact Or.inr ⟨_, rfl⟩
    · exact Or.inl rfl
  | looking | noticing | graceful wasUp | socket wasUp | tabling wasUp | marking wasUp =>
    exact Or.inr ⟨_, rfl⟩
  | done | dropped => exact Or.inl rfl

/-- The number of the teardown that an event brings, if it brings one. -/
def Event.brings? : Event → Option Nat
  | .loopEnds task | .beginStop task | .writeFails task => some task
  | .start | .greeted _ => some startTask
  | .wind _ | .drop _ | .call _ | .race _ => none

/-- What a step may do to the teardowns. -/
inductive Winds (l : Life) (e : Event) (after : Life) : Prop
  | same : after.teardowns = l.teardowns → Winds l e after
  | brings (task : Nat) (t : Teardown) : e.brings? = some task →
      t.progress = .looking ∨ t.progress = .entering →
        after.teardowns = l.teardowns ++ [(task, t)] → Winds l e after
  | goes (task : Nat) (t : Teardown) : e = .wind task → l.teardowns.lookup task = some t →
      after = l.stepTeardown task t → Winds l e after
  | drops (task : Nat) (t : Teardown) : e = .drop task → l.teardowns.lookup task = some t →
      after = l.dropTeardown task t → Winds l e after

theorem step_winds (l : Life) (e : Event) : Winds l e (l.step e) := by
  cases e with
  | start =>
    simp only [step, stepStart]
    split
    · split <;> exact .same rfl
    · split
      · exact .brings startTask ⟨.starter, .entering⟩ rfl (Or.inr rfl) rfl
      · exact .same rfl
    · exact .same rfl
    · exact .same rfl
    · exact .same rfl
    · exact .same rfl
  | greeted success =>
    simp only [step, greeted]
    split
    · split
      · exact .same rfl
      · exact .brings startTask ⟨.starter, .entering⟩ rfl (Or.inr rfl) rfl
    · exact .same rfl
  | loopEnds task =>
    simp only [step]
    split
    · exact .brings task ⟨.loop, .entering⟩ rfl (Or.inr rfl) rfl
    · exact .same rfl
  | beginStop task =>
    simp only [step]
    split
    · exact .brings task ⟨.stopper, .looking⟩ rfl (Or.inl rfl) rfl
    · exact .same rfl
  | writeFails task =>
    simp only [step]
    split
    · exact .brings task ⟨.writer, .entering⟩ rfl (Or.inr rfl) rfl
    · exact .same rfl
  | wind task =>
    simp only [step]
    split
    · exact .goes task _ rfl ‹_› rfl
    · exact .same rfl
  | drop task =>
    simp only [step]
    split
    · exact .drops task _ rfl ‹_› rfl
    · exact .same rfl
  | call task | race q =>
    simp only [step, call]
    split <;> exact .same rfl

/-- A teardown that has begun stays on record. -/
theorem teardowns_of_step (h : (l.step e).teardowns = []) : l.teardowns = [] := by
  cases step_winds l e with
  | same hsame => rwa [hsame] at h
  | brings task t _ _ hafter =>
    rw [hafter] at h
    exact (List.append_eq_nil_iff.mp h).1
  | goes task t _ _ hafter =>
    rw [hafter] at h
    rcases stepTeardown_teardowns l task t with hsame | ⟨after, hafter⟩
    · rwa [hsame] at h
    · rw [hafter] at h
      exact List.map_eq_nil_iff.mp h
  | drops task t _ _ hafter =>
    rw [hafter] at h
    unfold dropTeardown at h
    split at h
    · exact List.map_eq_nil_iff.mp h
    · exact h

theorem Fresh.step (h : Fresh l) (hnone : (l.step e).teardowns = []) : Fresh (l.step e) := by
  have hrace : ∀ q : Race.Event, (l.race.step q).closers = l.race.closers →
      Fresh { l with race := l.race.step q } := by
    intro q hq
    refine ⟨?_, h.up⟩
    obtain ⟨hshut, hsocket, hshutdowns, hclosings, hclosers⟩ := deeds_eq_iff.mp h.deeds
    exact deeds_eq_iff.mpr ⟨hshut, hsocket, hshutdowns, hclosings, hq.trans hclosers⟩
  have hold := teardowns_of_step hnone
  cases e with
  | start =>
    simp only [Life.step, stepStart] at hnone ⊢
    cases hs : l.starting with
    | idle => cases hside : l.side <;> exact ⟨h.deeds, by simp⟩
    | taking =>
      rw [hs] at hnone
      dsimp only at hnone ⊢
      split
      · rename_i hshut
        rw [if_pos hshut] at hnone
        exact absurd hnone addTeardown_ne_nil
      · refine ⟨h.deeds, ?_⟩
        cases hside : l.side <;> simp
    | marking => exact ⟨h.deeds, fun _ => rfl⟩
    | greeting | running | ended => exact h
  | greeted success =>
    simp only [Life.step, greeted] at hnone ⊢
    split at hnone
    · rename_i hgreeting
      rw [if_pos hgreeting]
      split at hnone
      · rename_i hsuccess
        rw [if_pos hsuccess]
        exact ⟨h.deeds, by simp⟩
      · exact absurd hnone addTeardown_ne_nil
    · rename_i hgreeting
      rw [if_neg hgreeting]
      exact h
  | loopEnds task | beginStop task | writeFails task =>
    simp only [Life.step] at hnone ⊢
    split at hnone
    · exact absurd hnone addTeardown_ne_nil
    · rename_i hbusy
      rw [if_neg hbusy]
      exact h
  | wind task | drop task =>
    simp only [Life.step, hold, List.lookup_nil]
    exact h
  | call task =>
    simp only [Life.step, Life.call]
    split
    · exact hrace _ (Race.beginRegister_closers l.race task)
    · exact ⟨h.deeds, h.up⟩
  | race q =>
    simp only [Life.step]
    split
    · exact hrace q (Race.step_closers_of_outside ‹_›)
    · exact h

theorem fresh_run (side : Side) (es : List Event) (hnone : ((new side).run es).teardowns = []) :
    Fresh ((new side).run es) := by
  induction es using List.reverseRecOn with
  | nil => exact ⟨rfl, by simp [new, run]⟩
  | append_singleton es e ih =>
    rw [run_concat] at hnone ⊢
    exact (ih (teardowns_of_step hnone)).step hnone

theorem orderly_run {side : Side} {front : List Event} (back : List Event)
    (hstarted : ((new side).run front).starting = .running)
    (hup : ((new side).run front).teardowns = []) : Orderly ((new side).run (front ++ back)) := by
  have hfresh := fresh_run side front hup
  rw [run_append]
  refine Orderly.run ⟨Or.inl hstarted, .up (hfresh.up hstarted) hfresh.deeds ?_⟩ back
  rintro k w ⟨-, t, ht, -⟩
  rw [hup] at ht
  cases ht

end Life

end Rpc
