import Rpc.Listener.Admission

/-! # Phases follow their order

A teardown moves a connection on only, as it looks at the phase before it begins. The starting task
does not look: it marks the connection up, or the handshake begun, whatever the phase is then. So
the phases of a connection follow their order exactly if no start comes late, that is, if no
teardown has begun when the starting task sets the phase.
-/
namespace Rpc.Life

/-- No phase stands behind one that came before it. -/
def Forward (l : Life) : Prop := l.phases.Pairwise fun later earlier => earlier.rank ≤ later.rank

/-- The next step of the starting task sets the phase though the connection is over. -/
def StartsLate (l : Life) : Prop :=
  l.phase.isOver ∧ (l.starting = .marking ∨ l.starting = .idle ∧ l.side = .client)

instance (l : Life) : Decidable l.Forward := inferInstanceAs (Decidable (List.Pairwise _ _))

instance (l : Life) : Decidable l.StartsLate := inferInstanceAs (Decidable (_ ∧ _))

/-! ## What a step does to the phase -/

/-- The phases that an event may set. -/
inductive Sets (l : Life) : Event → Phase → Prop
  | greet : l.starting = .idle → l.side = .client → Sets l .start .connecting
  | mark : l.starting = .marking → Sets l .start .connected
  | enter (task : Nat) : l.phase.isOver = false → Sets l (.wind task) .disconnecting
  | settle (task : Nat) : Sets l (.wind task) .disconnected

def KeepsPhase (l after : Life) : Prop := after.phase = l.phase ∧ after.phases = l.phases

def MovesTo (l after : Life) (p : Phase) : Prop := after.phase = p ∧ after.phases = p :: l.phases

section Step

variable {l : Life}

theorem stepStart_phase (l : Life) :
    KeepsPhase l l.stepStart ∨ ∃ p, Sets l .start p ∧ MovesTo l l.stepStart p := by
  unfold stepStart
  cases hstarting : l.starting with
  | idle =>
    cases hside : l.side with
    | client => exact .inr ⟨.connecting, .greet hstarting hside, rfl, rfl⟩
    | server => exact .inl ⟨rfl, rfl⟩
  | taking =>
    dsimp only
    split <;> exact .inl ⟨rfl, rfl⟩
  | marking => exact .inr ⟨.connected, .mark hstarting, rfl, rfl⟩
  | greeting | running | ended => exact .inl ⟨rfl, rfl⟩

theorem stepTeardown_phase (l : Life) (task : Nat) (t : Teardown) :
    KeepsPhase l (l.stepTeardown task t) ∨
      ∃ p, Sets l (.wind task) p ∧ MovesTo l (l.stepTeardown task t) p := by
  unfold stepTeardown
  cases t.progress with
  | entering =>
    dsimp only
    split
    · exact .inl ⟨rfl, rfl⟩
    · rename_i hup
      exact .inr ⟨.disconnecting, .enter task (by simpa using hup), rfl, rfl⟩
  | marking wasUp => exact .inr ⟨.disconnected, .settle task, rfl, rfl⟩
  | shutting wasUp | draining wasUp | waiting =>
    dsimp only
    split <;> exact .inl ⟨rfl, rfl⟩
  | looking | noticing | graceful wasUp | socket wasUp | tabling wasUp | done | dropped =>
    exact .inl ⟨rfl, rfl⟩

theorem step_phase (l : Life) (e : Event) :
    KeepsPhase l (l.step e) ∨ ∃ p, Sets l e p ∧ MovesTo l (l.step e) p := by
  cases e with
  | start => exact stepStart_phase l
  | wind task =>
    simp only [step]
    split
    · exact stepTeardown_phase l task _
    · exact .inl ⟨rfl, rfl⟩
  | greeted success =>
    simp only [step, greeted]
    split
    · split <;> exact .inl ⟨rfl, rfl⟩
    · exact .inl ⟨rfl, rfl⟩
  | drop task =>
    simp only [step, dropTeardown]
    split
    · split <;> exact .inl ⟨rfl, rfl⟩
    · exact .inl ⟨rfl, rfl⟩
  | loopEnds task | beginStop task | writeFails task | call task | race event =>
    simp only [step, call]
    split <;> exact .inl ⟨rfl, rfl⟩

theorem stepTeardown_starting (l : Life) (task : Nat) (t : Teardown) :
    (l.stepTeardown task t).starting = l.starting := by
  unfold stepTeardown
  cases t.progress with
  | entering | shutting wasUp | draining wasUp | waiting =>
    dsimp only
    split <;> rfl
  | looking | noticing | graceful wasUp | socket wasUp | tabling wasUp | marking wasUp | done
  | dropped => rfl

/-- A starting task does not come back to its beginning. -/
theorem starting_of_step {e : Event} (h : (l.step e).starting = .idle) : l.starting = .idle := by
  cases e with
  | start =>
    simp only [step, stepStart] at h
    cases hstarting : l.starting with
    | idle => rfl
    | taking =>
      rw [hstarting] at h
      dsimp only at h
      split at h
      · cases h
      · cases hside : l.side <;> simp [hside] at h
    | marking | greeting | running | ended =>
      rw [hstarting] at h
      simp_all
  | wind task =>
    simp only [step] at h
    split at h
    · rwa [stepTeardown_starting] at h
    · exact h
  | greeted success =>
    simp only [step, greeted] at h
    split at h
    · split at h <;> cases h
    · exact h
  | loopEnds task =>
    simp only [step] at h
    split at h
    · cases h
    · exact h
  | drop task =>
    simp only [step, dropTeardown] at h
    split at h
    · split at h <;> exact h
    · exact h
  | beginStop task | writeFails task | call task | race event =>
    simp only [step, call] at h
    split at h <;> exact h

end Step

/-! ## What a run does to the phases -/

/-- The phase is the latest one, and no connection is up before its start has begun. -/
structure Tracked (l : Life) : Prop where
  latest : ∃ earlier, l.phases = l.phase :: earlier
  fresh : l.starting = .idle → l.phase ≠ .connected

theorem tracked_new (side : Side) : Tracked (new side) := by
  refine ⟨⟨[], rfl⟩, ?_⟩
  intro _ hphase
  cases hphase

theorem tracked_step {l : Life} (h : Tracked l) (e : Event) : Tracked (l.step e) := by
  obtain ⟨hphase, hphases⟩ | ⟨p, hsets, hphase, hphases⟩ := step_phase l e
  · constructor
    · rw [hphase, hphases]
      exact h.latest
    · intro hidle
      rw [hphase]
      exact h.fresh (starting_of_step hidle)
  · constructor
    · exact ⟨l.phases, by rw [hphases, hphase]⟩
    · intro hidle hup
      have hstarting := starting_of_step hidle
      rw [hphase] at hup
      cases hsets with
      | greet => cases hup
      | mark hmarking => exact absurd (hmarking.symm.trans hstarting) (by decide)
      | enter => cases hup
      | settle => cases hup

theorem isOver_eq_true_iff {p : Phase} : p.isOver = true ↔ 3 ≤ p.rank := decide_eq_true_iff

/-- A phase that is set in time is not behind the one before it. -/
theorem rank_le_of_sets {l : Life} (h : Tracked l) {e : Event} {p : Phase} (hsets : Sets l e p)
    (htime : ¬ (e = .start ∧ l.StartsLate)) : l.phase.rank ≤ p.rank := by
  cases hsets with
  | greet hidle hside =>
    have hup := h.fresh hidle
    have hover : l.phase.isOver ≠ true := fun hover => htime ⟨rfl, hover, .inr ⟨hidle, hside⟩⟩
    cases hphase : l.phase <;> simp_all [Phase.isOver, Phase.rank]
  | mark hmarking =>
    have hover : ¬ 3 ≤ l.phase.rank := fun hover =>
      htime ⟨rfl, isOver_eq_true_iff.mpr hover, .inl hmarking⟩
    have hrank : Phase.connected.rank = 2 := rfl
    omega
  | enter task hover =>
    have hnot : ¬ 3 ≤ l.phase.rank := fun h => by simp [isOver_eq_true_iff.mpr h] at hover
    have hrank : Phase.disconnecting.rank = 3 := rfl
    omega
  | settle task => cases l.phase <;> decide

/-- A late start takes the phase back. -/
theorem rank_lt_of_startsLate {l : Life} (h : l.StartsLate) :
    ∃ p, MovesTo l (l.step .start) p ∧ p.rank < l.phase.rank := by
  obtain ⟨hover, hstage⟩ := h
  have hrank := isOver_eq_true_iff.mp hover
  obtain hmarking | ⟨hidle, hside⟩ := hstage
  · refine ⟨.connected, ?_, Nat.lt_of_lt_of_le (by decide) hrank⟩
    simp only [step, stepStart, hmarking]
    exact ⟨rfl, rfl⟩
  · refine ⟨.connecting, ?_, Nat.lt_of_lt_of_le (by decide) hrank⟩
    simp only [step, stepStart, hidle, hside]
    exact ⟨rfl, rfl⟩

/-- The phases follow their order for one more step unless a start comes late. -/
theorem forward_step {l : Life} (h : Tracked l) (e : Event) :
    (l.step e).Forward ↔ l.Forward ∧ ¬ (e = .start ∧ l.StartsLate) := by
  obtain ⟨earlier, hlatest⟩ := h.latest
  by_cases hlate : e = .start ∧ l.StartsLate
  · -- A late start sets a phase behind the latest one.
    obtain ⟨p, ⟨-, hphases⟩, hback⟩ := rank_lt_of_startsLate hlate.2
    have hnot : ¬ (l.step e).Forward := by
      intro hforward
      rw [Forward, hlate.1, hphases, hlatest] at hforward
      have hle := (List.pairwise_cons.mp hforward).1 l.phase List.mem_cons_self
      omega
    exact iff_of_false hnot fun hall => hall.2 hlate
  · rw [and_iff_left hlate]
    obtain ⟨-, hphases⟩ | ⟨p, hsets, -, hphases⟩ := step_phase l e
    · rw [Forward, hphases, Forward]
    · have hle := rank_le_of_sets h hsets hlate
      rw [Forward, hphases, List.pairwise_cons, ← Forward]
      refine and_iff_right_of_imp ?_
      intro hforward q hq
      rw [hlatest] at hq
      rcases List.mem_cons.mp hq with rfl | hq
      · exact hle
      · rw [Forward, hlatest] at hforward
        exact Nat.le_trans ((List.pairwise_cons.mp hforward).1 q hq) hle

theorem forward_run {l : Life} (h : Tracked l) (es : List Event) :
    (l.run es).Forward ↔ l.Forward ∧
      ∀ front back, es = front ++ .start :: back → ¬ (l.run front).StartsLate := by
  induction es generalizing l with
  | nil => simp [run]
  | cons e es ih =>
    have hrun : l.run (e :: es) = (l.step e).run es := rfl
    rw [hrun, ih (tracked_step h e), forward_step h e, and_assoc]
    refine and_congr_right fun _ => ?_
    constructor
    · rintro ⟨hnow, hlater⟩ front back hcut
      cases front with
      | nil =>
        obtain ⟨rfl, -⟩ := List.cons.inj hcut
        exact fun hlate => hnow ⟨rfl, hlate⟩
      | cons f front =>
        obtain ⟨rfl, hrest⟩ := List.cons.inj hcut
        exact hlater front back hrest
    · intro hall
      constructor
      · rintro ⟨rfl, hlate⟩
        exact hall [] es rfl hlate
      · intro front back hcut
        exact hall (e :: front) back (congrArg (e :: ·) hcut)

/-- The phases of a connection follow their order, whatever its tasks do in which order, exactly if
the starting task never sets the phase after a teardown has begun. -/
theorem phases_forward_iff (side : Side) (es : List Event) :
    ((new side).run es).Forward ↔
      ∀ front back, es = front ++ .start :: back → ¬ ((new side).run front).StartsLate := by
  have hnew : (new side).Forward := List.pairwise_singleton _ _
  rw [forward_run (tracked_new side), and_iff_right hnew]

/-- A stop runs from its beginning to its end while the starting task, which has taken the reader,
is about to mark the connection. -/
def stoppedStart : List Event :=
  [.start, .start, .beginStop 1] ++ List.replicate 12 (.wind 1) ++ [.start]

/-- A listener is stopped after it has listed a connection, and the same happens to it. -/
def haltedStart : List Admission.Event :=
  .accept 0 :: List.replicate 8 (.advance 0 true) ++
    [.beginStop 0, .stop 0, .stop 0, .loopEnds, .stop 0, .stop 0, .stop 0] ++
    List.replicate 12 (.live 0 (.wind (Admission.stopOf 0))) ++ [.advance 0 true]

/-- A connection that was gone is up again. -/
theorem stoppedStart_goes_back :
    ((new .server).run stoppedStart).phases =
      [.connected, .disconnected, .disconnecting, .created] ∧
    ¬ ((new .server).run stoppedStart).Forward ∧
    ((Admission.new.run haltedStart).life? 0).map (·.phases) =
      some [.connected, .disconnected, .disconnecting, .created] := by
  decide

end Rpc.Life
