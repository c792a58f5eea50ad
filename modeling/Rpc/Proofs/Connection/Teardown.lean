import Rpc.Connection.Step
import Rpc.Proofs.Call.Outcomes
import Rpc.Proofs.Connection.Winding

/-! # A connection is torn down once

However many tasks come to tear it down, the stream is shut once and the table closed once. When
the connection is gone, each call that was let onto the table has got its one outcome, and every
later call is turned away at the door, before a layer sees it and before anything is written.
-/
namespace Rpc.Life

variable {l : Life} {task : Nat} {t : Teardown} {n : UInt64} {e : Event} {side : Side}
  {es : List Event}

/-! ## What happens at the table -/

/-- What an event does at the table of waiting calls. -/
def tableEvents (l : Life) : Event → List Race.Event
  | .wind task =>
    match l.teardowns.lookup task with
    | some ⟨_, .tabling _⟩ => [.beginClose task]
    | some ⟨_, .draining _⟩ =>
      if l.race.closers.lookup task = some .done then [] else [.close task]
    | _ => []
  | .call task => if l.phase = .connected then [.beginRegister task] else []
  | .race e => if isOutside e then [e] else []
  | _ => []

def tableRun (side : Side) (es : List Event) : List Race.Event :=
  notes step tableEvents (new side) es

theorem stepTeardown_race (ht : l.teardowns.lookup task = some t) :
    (l.stepTeardown task t).race = l.race.run (l.tableEvents (.wind task)) := by
  obtain ⟨actor, progress⟩ := t
  simp only [stepTeardown, tableEvents, ht]
  cases progress with
  | draining wasUp =>
    dsimp only
    split <;> rfl
  | entering | shutting wasUp | waiting =>
    dsimp only
    split <;> rfl
  | looking | noticing | graceful wasUp | socket wasUp | tabling wasUp | marking wasUp | done
  | dropped => rfl

theorem race_step (l : Life) (e : Event) : (l.step e).race = l.race.run (l.tableEvents e) := by
  cases e with
  | wind task =>
    cases ht : l.teardowns.lookup task with
    | some t =>
      simp only [step, ht]
      exact stepTeardown_race ht
    | none =>
      simp only [step, tableEvents, ht]
      rfl
  | call task =>
    simp only [step, call, tableEvents]
    split <;> rfl
  | race q =>
    simp only [step, tableEvents]
    split <;> rfl
  | drop task =>
    simp only [step, dropTeardown]
    split
    · split <;> rfl
    · rfl
  | start =>
    simp only [step, stepStart]
    cases l.starting with
    | idle => cases l.side <;> rfl
    | taking =>
      dsimp only
      split <;> rfl
    | marking | greeting | running | ended => rfl
  | greeted success =>
    simp only [step, greeted]
    split
    · split <;> rfl
    · rfl
  | loopEnds task | beginStop task | writeFails task =>
    simp only [step]
    split <;> rfl

theorem race_run (side : Side) (es : List Event) :
    ((new side).run es).race = (Race.new side).run (tableRun side es) := by
  induction es using List.reverseRecOn with
  | nil => rfl
  | append_singleton es e ih =>
    rw [run_concat, race_step, ih, ← Race.run_append]
    rw [tableRun, tableRun, notes_concat]
    rfl

/-- What others than teardowns do at the table are events of their own. -/
theorem mem_of_mem_tableRun {q : Race.Event} (hq : isOutside q = true) (h : q ∈ tableRun side es) :
    .race q ∈ es := by
  obtain ⟨front, e, back, rfl, he⟩ := mem_notes_iff.mp h
  have heq : e = .race q := by
    cases e with
    | wind task =>
      simp only [tableEvents] at he
      split at he
      · rw [List.mem_singleton.mp he] at hq
        cases hq
      · split at he
        · cases he
        · rw [List.mem_singleton.mp he] at hq
          cases hq
      · cases he
    | call task =>
      simp only [tableEvents] at he
      split at he
      · rw [List.mem_singleton.mp he] at hq
        cases hq
      · cases he
    | race q' =>
      simp only [tableEvents] at he
      split at he
      · rw [List.mem_singleton.mp he]
      · cases he
    | start | greeted | loopEnds | beginStop | writeFails | drop => cases he
  rw [← heq]
  exact List.mem_append_right _ List.mem_cons_self

/-! ## When it is gone -/

/-- What has become of a call that was let onto the table: it has its reply, or failed as the
connection closed, or its caller went away. Otherwise another call was given the same number. -/
def Resolves (side : Side) (es : List Event) (n : UInt64) (task : Nat) : Outcome → Prop
  | .replied reply => reply = .error (.transport .connectionClosed) ∨
      .race (.complete n reply) ∈ es
  | .forgotten => .race (.remove n) ∈ es
  | .withdrawn other => other ≠ task ∧
      9223372036854775807 ≤ (Race.drawn side (tableRun side es)).length

theorem resolves_of_settles {o : Outcome} (h : Race.Settles side (tableRun side es) n task o) :
    Resolves side es n task o := by
  cases o with
  | replied reply => exact h.imp_right (mem_of_mem_tableRun rfl)
  | forgotten => exact mem_of_mem_tableRun rfl h
  | withdrawn other => exact h

/-- The table takes no more calls, and those that were let onto it have come to an end. -/
structure Emptied (side : Side) (es : List Event) : Prop where
  closed : ((new side).run es).race.closed = true
  empty : (∀ g ∈ ((new side).run es).race.registers, g.2.isDone) →
    ((new side).run es).race.waiting = []
  resolved : ∀ task n, ((new side).run es).race.registers.lookup task = some (.registered n) →
    ∃ o, ((new side).run es).race.outcomes.filter (·.1 = task) = [(task, o)] ∧
      Resolves side es n task o

theorem emptied_of_done (hdone : ((new side).run es).race.closers.lookup task = some .done)
    (hall : ∀ c ∈ ((new side).run es).race.closers, c.2 = .done) : Emptied side es := by
  have hsound := Race.sound_run side (tableRun side es)
  rw [← race_run] at hsound
  constructor
  · exact hsound.flagged task .done hdone (by simp)
  · intro hregisters
    refine hsound.waiting_of_quiet ⟨hregisters, hall⟩ ?_
    intro hnone
    rw [hnone] at hdone
    cases hdone
  · intro task' n hn
    have hgone : (n, task') ∉ ((new side).run es).race.waiting := fun hmem =>
      hsound.awaited task .done n task' hdone hmem hn
    obtain ⟨o, ho⟩ := hsound.outcome hn hgone
    refine ⟨o, ho, resolves_of_settles (Race.settles_of_mem ?_ ?_)⟩
    · rw [← race_run]
      exact hn
    · rw [← race_run]
      have hmem : (task', o) ∈ ((new side).run es).race.outcomes.filter (·.1 = task') := by
        rw [ho]
        exact List.mem_singleton_self _
      exact (List.mem_filter.mp hmem).1

structure Gone (side : Side) (es : List Event) : Prop where
  shut : ((new side).run es).shut = true
  socketClosed : ((new side).run es).socketClosed = true
  closed : ((new side).run es).race.closed = true
  empty : (∀ g ∈ ((new side).run es).race.registers, g.2.isDone) →
    ((new side).run es).race.waiting = []
  resolved : ∀ task n, ((new side).run es).race.registers.lookup task = some (.registered n) →
    ∃ o, ((new side).run es).race.outcomes.filter (·.1 = task) = [(task, o)] ∧
      Resolves side es n task o
  stays : ∀ later, ((new side).run (es ++ later)).phase = .disconnected
  turnsAway : ∀ later task,
    ((new side).run (es ++ later ++ [.call task])).race = ((new side).run (es ++ later)).race
  /-- A call fails at the door of a connection in this phase, and changes nothing. -/
  fails : ∀ later {σ : Type} (p : Profile σ) (c : Connection σ) caller expectsAnswer context moment
    method payload, c.phase = ((new side).run (es ++ later)).phase → c.call? caller = none →
      c.step p (.call caller expectsAnswer context moment method payload) =
        (c, [.ended caller (.failed (.transport .connectionClosed))])

theorem Orderly.stays (h : Orderly l) (hgone : l.phase = .disconnected) (es : List Event) :
    (l.run es).phase = .disconnected := by
  induction es using List.reverseRecOn with
  | nil => exact hgone
  | append_singleton es e ih =>
    rw [run_concat]
    have hstarted := (h.run es).started
    rcases step_phase (l.run es) e with hkept | ⟨p, hsets, hmoves⟩
    · rw [hkept.1]
      exact ih
    · rw [hmoves.1]
      cases hsets with
      | settle task => rfl
      | enter task hup =>
        rw [ih] at hup
        cases hup
      | greet hs | mark hs =>
        rw [hs] at hstarted
        rcases hstarted with hs | hs <;> cases hs

theorem Orderly.gone (h : Orderly ((new side).run es))
    (hphase : ((new side).run es).phase = .disconnected) : Gone side es := by
  have hstands := h.stands
  have hstays := h.stays hphase
  cases hstands with
  | up hp | winding hp | forsaken hp =>
    rw [hphase] at hp
    cases hp
  | gone _ task hdeeds _ =>
    obtain ⟨hshut, hsocket, -, -, hclosers⟩ := deeds_eq_iff.mp hdeeds
    have hemptied : Emptied side es := by
      have hdone : ((new side).run es).race.closers.lookup task = some .done := by
        rw [hclosers, List.lookup_cons_self]
      refine emptied_of_done hdone fun c hc => ?_
      rw [hclosers] at hc
      rw [List.mem_singleton.mp hc]
    constructor
    · exact hshut
    · exact hsocket
    · exact hemptied.closed
    · exact hemptied.empty
    · exact hemptied.resolved
    · intro later
      rw [run_append]
      exact hstays later
    · intro later task
      have hover : ((new side).run (es ++ later)).phase ≠ .connected := by
        rw [run_append, hstays later]
        simp
      rw [run_concat, Life.step, Life.call, if_neg hover]
    · intro later σ p c caller expectsAnswer context moment method payload hc hfree
      rw [run_append, hstays later] at hc
      have hclosed : Connection.gate c.phase expectsAnswer context moment =
          some (.transport .connectionClosed) := by rw [hc, Connection.gate, Connection.phaseGate]
      simp only [Connection.step, Connection.call, hfree, Option.isSome_none, Bool.false_eq_true,
        if_false, hclosed]

/-- Whatever happens to a connection that came up before anybody began to tear it down, its teardown
runs once at most; and when it is gone, everything is done and nothing is let in any more. -/
theorem torn_down_once (side : Side) (front back : List Event)
    (hstarted : ((new side).run front).starting = .running)
    (huntouched : ((new side).run front).teardowns = []) :
    ((new side).run (front ++ back)).shutdowns ≤ 1 ∧
      ((new side).run (front ++ back)).closings ≤ 1 ∧
        (((new side).run (front ++ back)).phase = .disconnected → Gone side (front ++ back)) := by
  have h := orderly_run back hstarted huntouched
  have hdeeds := h.stands.deeds_le
  exact ⟨hdeeds.1, hdeeds.2, h.gone⟩

/-- A call has its number when a caller of stop and a writer that failed come to tear the connection
down at the same time. -/
def contested : List Event :=
  [.call 7, .race (.register 7), .race (.register 7), .race (.register 7), .race (.register 7),
    .beginStop 1, .writeFails 2, .wind 1, .wind 1, .wind 2, .wind 1, .call 8, .wind 2, .wind 2,
    .wind 2, .wind 2, .wind 2, .wind 2, .wind 2, .wind 2, .wind 2, .wind 2]

theorem contested_torn_down :
    ((new .server).run ([.start, .start, .start] ++ contested)).phase = .disconnected ∧
      Gone .server ([.start, .start, .start] ++ contested) := by
  have hphase : ((new .server).run ([.start, .start, .start] ++ contested)).phase =
      .disconnected := by decide
  exact ⟨hphase, (torn_down_once .server [.start, .start, .start] contested rfl rfl).2.2 hphase⟩

end Rpc.Life
