import Mathlib.Data.Fintype.EquivFin
import Rpc.Proofs.Call.Alone
import Rpc.Proofs.Connection.Moves
import Rpc.Proofs.Connection.Numbers
import Rpc.Proofs.Connection.Winding

/-! # A connection lives a life

What a connection does in one step, tasks of its life do one after the other while nobody comes in
between. So whatever a connection comes to, its phase, its stream, its table and its receive loop
come to in some life, where all teardowns have run to their end.
-/
namespace Rpc

/-- A start has come as far as the receive loop, whose end may not have been noticed. -/
def Starting.Matches : Starting → Loop → Prop
  | .idle, loop => loop = .unstarted
  | .greeting, loop => loop = .greeting ∨ loop = .greeted
  | .running, loop | .ended, loop => loop.isStarting = false
  | .taking, _ | .marking, _ => False

theorem Starting.Matches.of_isStarting_false {s : Starting} {loop : Loop} (h : s.Matches loop)
    (hloop : loop.isStarting = false) : s = .running ∨ s = .ended := by
  cases s with
  | running => exact Or.inl rfl
  | ended => exact Or.inr rfl
  | idle =>
    cases h
    cases hloop
  | greeting => rcases h with rfl | rfl <;> cases hloop
  | taking | marking => exact h.elim

theorem Starting.Matches.of_unstarted {s : Starting} (h : s.Matches .unstarted) : s = .idle := by
  cases s with
  | idle => rfl
  | greeting => rcases h with h | h <;> cases h
  | running | ended => cases h
  | taking | marking => exact h.elim

theorem Starting.Matches.of_greeting {s : Starting} {loop : Loop} (h : s.Matches loop)
    (hloop : loop = .greeting ∨ loop = .greeted) : s = .greeting := by
  cases s with
  | greeting => rfl
  | idle =>
    cases h
    rcases hloop with h | h <;> cases h
  | running | ended => rcases hloop with rfl | rfl <;> cases h
  | taking | marking => exact h.elim

namespace Life

variable {l l' mid : Life} {task : Nat} {t : Teardown} {w : Winding}

/-! ## A teardown that is left alone -/

theorem step_wind (h : l.teardowns.lookup task = some t) :
    l.step (.wind task) = l.stepTeardown task t := by simp only [step, h]

theorem setTeardown_setTeardown (l : Life) (task : Nat) (w w' : Winding) :
    ((l.setTeardown task w).setTeardown task w').teardowns = (l.setTeardown task w').teardowns := by
  simp only [setTeardown, List.map_map]
  refine List.map_congr_left fun x _ => ?_
  by_cases hx : x.1 = task <;> simp [hx]

/-- A teardown has come to some stage by its own steps, and has left the rest as it was. -/
structure TearsOn (l l' : Life) (task : Nat) (w : Winding) : Prop where
  byItself : ∃ k, l.run (List.replicate k (.wind task)) = l'
  side : l'.side = l.side
  starting : l'.starting = l.starting
  teardowns : l'.teardowns = (l.setTeardown task w).teardowns
  closers : ∀ k, k ≠ task → l'.race.closers.lookup k = l.race.closers.lookup k

/-- A step that changes nothing of what a teardown leaves alone. -/
structure Steps (l l' : Life) (task : Nat) (w : Winding) : Prop where
  step : l.step (.wind task) = l'.setTeardown task w
  side : l'.side = l.side
  starting : l'.starting = l.starting
  teardowns : l'.teardowns = l.teardowns
  closers : ∀ k, k ≠ task → l'.race.closers.lookup k = l.race.closers.lookup k

theorem Steps.tearsOn (h : Steps l l' task w) : TearsOn l (l'.setTeardown task w) task w where
  byItself := ⟨1, h.step⟩
  side := h.side
  starting := h.starting
  teardowns := by simp only [setTeardown, h.teardowns]
  closers := h.closers

theorem TearsOn.trans {w' : Winding} (h : TearsOn l mid task w) (h' : TearsOn mid l' task w') :
    TearsOn l l' task w' where
  byItself := by
    obtain ⟨j, rfl⟩ := h.byItself
    obtain ⟨k, rfl⟩ := h'.byItself
    exact ⟨j + k, by rw [List.replicate_add, run_append]⟩
  side := h'.side.trans h.side
  starting := h'.starting.trans h.starting
  teardowns := by
    rw [h'.teardowns, ← setTeardown_setTeardown l task w w']
    simp only [setTeardown, h.teardowns]
  closers k hk := (h'.closers k hk).trans (h.closers k hk)

theorem TearsOn.lookup (h : TearsOn l l' task w) (ht : l.teardowns.lookup task = some t) :
    l'.teardowns.lookup task = some { t with progress := w } := by
  rw [h.teardowns, lookup_setTeardown, if_pos rfl, ht]
  rfl

/-- A teardown that finds the connection up moves the phase on and shuts the stream. -/
theorem exists_tabling (ht : l.teardowns.lookup task = some t) (hentering : t.progress = .entering)
    (hover : l.phase.isOver = false) : ∃ l' up, TearsOn l l' task (.tabling up) ∧
      l'.shut = true ∧ l'.race = l.race := by
  have henters := step_wind ht
  simp only [stepTeardown, hentering, hover, Bool.false_eq_true, if_false] at henters
  generalize decide (l.phase = .connected) = up at henters
  have hshutting := Steps.tearsOn (l := l) ⟨henters, rfl, rfl, rfl, fun _ _ => rfl⟩
  have hshuts := step_wind (hshutting.lookup ht)
  generalize hmid : (l.setPhase .disconnecting).setTeardown task (.shutting up) = mid
    at hshutting hshuts
  have hrace : mid.race = l.race := by rw [← hmid]; rfl
  cases hshut : mid.shut with
  | true =>
    simp only [stepTeardown, hshut, if_true] at hshuts
    have htabling := Steps.tearsOn (l := mid) ⟨hshuts, rfl, rfl, rfl, fun _ _ => rfl⟩
    exact ⟨_, up, hshutting.trans htabling, hshut, hrace⟩
  | false =>
    simp only [stepTeardown, hshut, Bool.false_eq_true, if_false] at hshuts
    have hgraceful := hshutting.trans
      (Steps.tearsOn (l := mid) ⟨hshuts, rfl, rfl, rfl, fun _ _ => rfl⟩)
    have hcloses := step_wind (hgraceful.lookup ht)
    simp only [stepTeardown] at hcloses
    have hsocket := hgraceful.trans (Steps.tearsOn ⟨hcloses, rfl, rfl, rfl, fun _ _ => rfl⟩)
    have hdrops := step_wind (hsocket.lookup ht)
    simp only [stepTeardown] at hdrops
    have htabling := hsocket.trans (Steps.tearsOn ⟨hdrops, rfl, rfl, rfl, fun _ _ => rfl⟩)
    exact ⟨_, up, htabling, rfl, hrace⟩

/-- A teardown closes the table in as many steps as the closing takes. -/
theorem run_draining {up : Bool} {k : Nat} {table : CallTable}
    (ht : l.teardowns.lookup task = some t) (hdraining : t.progress = .draining up)
    (hdone : l.race.DoneIn task k table) {i : Nat} (hi : i ≤ k) :
    l.run (List.replicate i (.wind task)) =
      { l with race := l.race.run (List.replicate i (.close task)) } := by
  induction i with
  | zero => rfl
  | succ i ih =>
    have hwinds :=
      step_wind (l := { l with race := l.race.run (List.replicate i (.close task)) }) ht
    simp only [stepTeardown, hdraining] at hwinds
    rw [if_neg (hdone.before i hi)] at hwinds
    rw [List.replicate_succ', run_concat, ih (Nat.le_of_succ_le hi), hwinds, List.replicate_succ',
      Race.run_concat]

theorem exists_drained {up : Bool} {k : Nat} {table : CallTable}
    (ht : l.teardowns.lookup task = some t) (hdraining : t.progress = .draining up)
    (hdone : l.race.DoneIn task k table) :
    ∃ l', TearsOn l l' task (.marking up) ∧ l'.shut = l.shut ∧ l'.race.table = table := by
  have hruns := run_draining ht hdraining hdone (Nat.le_refl k)
  generalize hclosed : { l with race := l.race.run (List.replicate k (.close task)) } = closed
    at hruns
  have hrace : closed.race = l.race.run (List.replicate k (.close task)) := by rw [← hclosed]
  have hlookup : closed.teardowns.lookup task = some t := by
    rw [← hclosed]
    exact ht
  have hends := step_wind hlookup
  simp only [stepTeardown, hdraining, hrace, hdone.closes.stage, if_true] at hends
  refine ⟨closed.setTeardown task (.marking up), ⟨⟨k + 1, ?_⟩, ?_, ?_, ?_, ?_⟩, ?_, ?_⟩
  · rw [List.replicate_succ', run_concat, hruns, hends]
  · rw [← hclosed]
    rfl
  · rw [← hclosed]
    rfl
  · rw [← hclosed]
    rfl
  · rw [← hclosed]
    exact hdone.closes.others
  · rw [← hclosed]
    rfl
  · rw [← hclosed]
    exact hdone.table

/-- A teardown that has shut the stream closes the table. -/
theorem exists_marking {up : Bool} (ht : l.teardowns.lookup task = some t)
    (htabling : t.progress = .tabling up) (hnew : l.race.closers.lookup task = none) :
    ∃ l', TearsOn l l' task (.marking up) ∧ l'.shut = l.shut ∧
      l'.race.table = l.race.table.close := by
  have hbegins := step_wind ht
  simp only [stepTeardown, htabling] at hbegins
  have hbegun := Race.closes_begin hnew
  have hdraining := Steps.tearsOn ⟨hbegins, rfl, rfl, rfl, hbegun.others⟩
  obtain ⟨k, hdone⟩ := Race.exists_doneIn hbegun.stage
  rw [Race.table_begin] at hdone
  obtain ⟨l', hmarking, hshut, htable⟩ := exists_drained (hdraining.lookup ht) rfl hdone
  exact ⟨l', hdraining.trans hmarking, hshut, htable⟩

/-- A teardown with nothing left to do. -/
theorem exists_done (ht : l.teardowns.lookup task = some t)
    (hmid : TearsOn l mid task (rest t.actor)) (hphase : mid.phase = .disconnected) :
    ∃ l', TearsOn l l' task .done ∧ l'.phase = .disconnected ∧ l'.shut = mid.shut ∧
      l'.race.table = mid.race.table := by
  by_cases hstopper : t.actor = .stopper
  · rw [rest, if_pos hstopper] at hmid
    have hends := step_wind (hmid.lookup ht)
    simp only [stepTeardown, hphase, if_true] at hends
    have hdone := hmid.trans (Steps.tearsOn ⟨hends, rfl, rfl, rfl, fun _ _ => rfl⟩)
    exact ⟨_, hdone, hphase, rfl, rfl⟩
  · rw [rest, if_neg hstopper] at hmid
    exact ⟨mid, hmid, hphase, rfl, rfl⟩

/-- A teardown that is left alone does what a connection does in one step. -/
theorem exists_tornDown (ht : l.teardowns.lookup task = some t) (hentering : t.progress = .entering)
    (hnew : l.race.closers.lookup task = none)
    (hgone : l.phase.isOver = true → l.phase = .disconnected ∧ l.shut = true) :
    ∃ l', TearsOn l l' task .done ∧ l'.phase = .disconnected ∧ l'.shut = true ∧
      l'.race.table = if l.phase.isOver then l.race.table else l.race.table.close := by
  cases hover : l.phase.isOver with
  | true =>
    obtain ⟨hphase, hshut⟩ := hgone hover
    have hrests := step_wind ht
    simp only [stepTeardown, hentering, hover, if_true] at hrests
    have hrested := Steps.tearsOn (l := l) ⟨hrests, rfl, rfl, rfl, fun _ _ => rfl⟩
    obtain ⟨l', hdone, hdown, hkept, htable⟩ := exists_done ht hrested hphase
    exact ⟨l', hdone, hdown, hkept.trans hshut, htable⟩
  | false =>
    obtain ⟨closed, up, htabling, hshut, hrace⟩ := exists_tabling ht hentering hover
    obtain ⟨marked, hmarking, hkept, htable⟩ :=
      exists_marking (htabling.lookup ht) rfl (by rw [hrace, hnew])
    have hmarked := htabling.trans hmarking
    have hmarks := step_wind (hmarked.lookup ht)
    simp only [stepTeardown] at hmarks
    have hrested := hmarked.trans (Steps.tearsOn ⟨hmarks, rfl, rfl, rfl, fun _ _ => rfl⟩)
    obtain ⟨l', hdone, hdown, hshut', htable'⟩ := exists_done ht hrested rfl
    refine ⟨l', hdone, hdown, hshut'.trans (hkept.trans hshut), htable'.trans (htable.trans ?_)⟩
    rw [hrace]
    rfl

/-! ## A life beside a connection -/

section Beside

open Connection (Move)

variable {σ : Type} {side : Side} {c c' : Connection σ}

/-- Where the events of a life may lead. -/
def Reaches (l l' : Life) : Prop := ∃ fs, l.run fs = l'

theorem Reaches.refl (l : Life) : Reaches l l := ⟨[], rfl⟩

theorem Reaches.trans (h : Reaches l mid) (h' : Reaches mid l') : Reaches l l' := by
  obtain ⟨fs, rfl⟩ := h
  obtain ⟨gs, rfl⟩ := h'
  exact ⟨fs ++ gs, run_append fs gs⟩

theorem TearsOn.reaches (h : TearsOn l l' task w) : Reaches l l' := by
  obtain ⟨k, hk⟩ := h.byItself
  exact ⟨_, hk⟩

/-- No task of this number is under way. -/
structure Unused (l : Life) (task : Nat) : Prop where
  notStart : task ≠ startTask
  teardown : l.teardowns.lookup task = none
  closer : l.race.closers.lookup task = none
  register : l.race.registers.lookup task = none

theorem exists_unused (l : Life) : ∃ task, l.Unused task := by
  obtain ⟨task, htask⟩ := Infinite.exists_notMem_finset (insert startTask
    (l.teardowns.map Prod.fst ++ l.race.closers.map Prod.fst ++
      l.race.registers.map Prod.fst).toFinset)
  simp only [Finset.mem_insert, List.mem_toFinset, List.mem_append, not_or] at htask
  obtain ⟨hstart, ⟨hteardown, hcloser⟩, hregister⟩ := htask
  exact ⟨task, hstart, lookup_eq_none_iff_not_mem.mpr hteardown,
    lookup_eq_none_iff_not_mem.mpr hcloser, lookup_eq_none_iff_not_mem.mpr hregister⟩

theorem Unused.isFree (h : l.Unused task) : l.isFree task = true := by
  simp [Life.isFree, h.notStart, h.teardown]

/-- The phase, the stream and the table are those of a connection, and all teardowns are at their
end. -/
structure Rests (l : Life) (c : Connection σ) : Prop where
  phase : l.phase = c.phase
  shut : l.shut = c.shut
  table : l.race.table = c.table
  done : ∀ x ∈ l.teardowns, x.2.progress = .done

/-- Besides, the start has come as far, and has not failed unless it is at its end. -/
structure Agrees (side : Side) (l : Life) (c : Connection σ) : Prop extends l.Rests c where
  hasSide : l.side = side
  starting : l.starting.Matches c.loop
  unfailed : l.starting ≠ .ended →
    l.teardowns.lookup startTask = none ∧ l.race.closers.lookup startTask = none

theorem agrees_new (p : Profile σ) (s : σ) : Agrees p.side (.new p.side) (.new p s) where
  phase := rfl
  shut := rfl
  table := rfl
  done := nofun
  hasSide := rfl
  starting := rfl
  unfailed _ := ⟨rfl, rfl⟩

/-! ### Calls -/

theorem reaches_race (es : List Race.Event) (h : ∀ e ∈ es, isOutside e = true) :
    Reaches l { l with race := l.race.run es } := by
  induction es generalizing l with
  | nil => exact .refl l
  | cons e es ih =>
    have hstep : l.step (.race e) = { l with race := l.race.step e } :=
      if_pos (h e List.mem_cons_self)
    have hfirst : Reaches l { l with race := l.race.step e } := ⟨[.race e], hstep⟩
    exact hfirst.trans (ih fun e he => h e (List.mem_cons_of_mem _ he))

theorem exists_turned {table : CallTable} (h : l.race.table.Turns table) : ∃ race,
    Reaches l { l with race } ∧ race.table = table ∧ race.closers = l.race.closers := by
  cases h with
  | same => exact ⟨l.race, .refl l, rfl, rfl⟩
  | removed n =>
    refine ⟨_, reaches_race [.remove n] ?_, Race.table_take .., Race.take_closers ..⟩
    simp [isOutside]
  | allocated =>
    obtain ⟨k, htable, hclosers⟩ := Race.exists_allocates l.race
    refine ⟨_, reaches_race _ fun e he => ?_, htable, hclosers⟩
    rw [List.eq_of_mem_replicate he]
    rfl

/-- A call of a connection that is up registers. -/
theorem exists_numbered (hup : l.phase = .connected) (hopen : l.race.closed = false)
    (hfree : l.race.table.enter.1 ∉ l.race.table.waiting) : ∃ race, Reaches l { l with race } ∧
      race.table = l.race.table.enter.2 ∧ race.closers = l.race.closers := by
  obtain ⟨task, hunused⟩ := exists_unused l
  obtain ⟨k, htable, -, hclosers⟩ := Race.exists_registers hunused.register hopen hfree
  have hcalls : Reaches l { l with race := l.race.step (.beginRegister task) } :=
    ⟨[.call task], if_pos hup⟩
  refine ⟨_, hcalls.trans (reaches_race (List.replicate k (.register task)) fun e he => ?_),
    htable, hclosers⟩
  rw [List.eq_of_mem_replicate he]
  rfl

theorem Agrees.of_race {race : Race} (h : Agrees side l c)
    (hclosers : race.closers = l.race.closers) (htable : race.table = c'.table)
    (hphase : c'.phase = c.phase) (hshut : c'.shut = c.shut) (hloop : c'.loop = c.loop) :
    Agrees side { l with race } c' where
  phase := h.phase.trans hphase.symm
  shut := h.shut.trans hshut.symm
  table := htable
  done := h.done
  hasSide := h.hasSide
  starting := hloop ▸ h.starting
  unfailed hnot := by
    rw [hclosers]
    exact h.unfailed hnot

/-! ### Teardowns -/

/-- Only what belongs to one task has changed. -/
structure Spares (l l' : Life) (task : Nat) : Prop where
  side : l'.side = l.side
  starting : l'.starting = l.starting
  teardown : ∀ k, k ≠ task → l'.teardowns.lookup k = l.teardowns.lookup k
  closer : ∀ k, k ≠ task → l'.race.closers.lookup k = l.race.closers.lookup k

/-- A new teardown runs to its end. -/
theorem Rests.exists_teardown (h : l.Rests c) (hgone : c.phase.isOver = true →
    c.phase = .disconnected ∧ c.shut = true) (hteardown : l.teardowns.lookup task = none)
    (hcloser : l.race.closers.lookup task = none) (actor : TeardownActor) : ∃ l',
      Reaches (l.addTeardown task ⟨actor, .entering⟩) l' ∧ l'.Rests c.teardown.1 ∧
        Spares l l' task := by
  have hadded : (l.addTeardown task ⟨actor, .entering⟩).teardowns.lookup task =
      some ⟨actor, .entering⟩ := by
    rw [addTeardown, lookup_concat, hteardown, if_pos rfl, Option.none_or]
  obtain ⟨l', htears, hphase, hshut, htable⟩ := exists_tornDown hadded rfl hcloser (by
    change l.phase.isOver = true → l.phase = .disconnected ∧ l.shut = true
    rw [h.phase, h.shut]
    exact hgone)
  have hdone : ∀ x ∈ l'.teardowns, x.2.progress = .done := by
    rw [htears.teardowns]
    intro x hx
    obtain ⟨y, hy, rfl⟩ := List.mem_map.mp hx
    by_cases hkey : y.1 = task
    · simp only [hkey, if_true]
    · rw [if_neg hkey]
      rcases List.mem_append.mp hy with hold | hnew
      · exact h.done y hold
      · exact absurd (congrArg Prod.fst (List.mem_singleton.mp hnew)) hkey
  refine ⟨l', htears.reaches, ?_, htears.side, htears.starting, fun k hk => ?_, htears.closers⟩
  · change l'.race.table =
      if l.phase.isOver = true then l.race.table else l.race.table.close at htable
    rw [h.phase, h.table] at htable
    unfold Connection.teardown
    split
    · obtain ⟨hcphase, hcshut⟩ := hgone ‹_›
      exact ⟨hphase.trans hcphase.symm, hshut.trans hcshut.symm, htable.trans (if_pos ‹_›), hdone⟩
    · exact ⟨hphase, hshut, htable.trans (if_neg ‹_›), hdone⟩
  · rw [htears.teardowns, lookup_setTeardown, if_neg hk, addTeardown, lookup_concat, if_neg hk,
      Option.or_none]

/-- The teardown of a start that has failed. -/
theorem Rests.exists_failed (h : l.Rests c) (hside : l.side = side) (hgone : c.phase.isOver = true →
    c.phase = .disconnected ∧ c.shut = true) (hended : l.starting = .ended)
    (hunused : l.teardowns.lookup startTask = none ∧ l.race.closers.lookup startTask = none)
    (hloop : c.loop.isStarting = false) : ∃ l',
      Reaches (l.addTeardown startTask ⟨.starter, .entering⟩) l' ∧
        Agrees side l' c.teardown.1 := by
  obtain ⟨l', hreaches, hrests, hspares⟩ := h.exists_teardown hgone hunused.1 hunused.2 .starter
  have hended' : l'.starting = .ended := hspares.starting.trans hended
  refine ⟨l', hreaches, hrests, hspares.side.trans hside, ?_, fun hnot => absurd hended' hnot⟩
  rw [hended', Connection.teardown_loop]
  exact hloop

/-- A teardown that anyone but the start begins. -/
theorem Agrees.exists_tornDown (h : Agrees side l c) (hgone : c.phase.isOver = true →
    c.phase = .disconnected ∧ c.shut = true) (hunused : l.Unused task) (actor : TeardownActor) :
    ∃ l', Reaches (l.addTeardown task ⟨actor, .entering⟩) l' ∧ Agrees side l' c.teardown.1 := by
  obtain ⟨l', hreaches, hrests, hspares⟩ :=
    h.toRests.exists_teardown hgone hunused.teardown hunused.closer actor
  refine ⟨l', hreaches, hrests, hspares.side.trans h.hasSide, ?_, fun hnot => ?_⟩
  · rw [hspares.starting, Connection.teardown_loop]
    exact h.starting
  · rw [hspares.starting] at hnot
    rw [hspares.teardown _ hunused.notStart.symm, hspares.closer _ hunused.notStart.symm]
    exact h.unfailed hnot

theorem Agrees.tornDown (h : Agrees side l c) (hc : c.Coherent) :
    ∃ l', Reaches l l' ∧ Agrees side l' c.teardown.1 := by
  obtain ⟨task, hunused⟩ := exists_unused l
  obtain ⟨l', hreaches, hagrees⟩ := h.exists_tornDown hc.gone hunused .writer
  have hfails : Reaches l (l.addTeardown task ⟨.writer, .entering⟩) :=
    ⟨[.writeFails task], if_pos hunused.isFree⟩
  exact ⟨l', hfails.trans hreaches, hagrees⟩

theorem Agrees.left (h : Agrees side l c) (hc : c.Coherent) (hfrom : c.loop.isStarting = false) :
    ∃ l', Reaches l l' ∧ Agrees side l' c.leave.1 := by
  rcases h.starting.of_isStarting_false hfrom with hrunning | hended
  · obtain ⟨task, hunused⟩ := exists_unused l
    have hends : Reaches l ({ l with starting := .ended }.addTeardown task ⟨.loop, .entering⟩) :=
      ⟨[.loopEnds task], if_pos ⟨hrunning, hunused.isFree⟩⟩
    have hagrees : Agrees side { l with starting := .ended } { c with loop := .over } :=
      ⟨⟨h.phase, h.shut, h.table, h.done⟩, h.hasSide, rfl, fun hnot => absurd rfl hnot⟩
    obtain ⟨l', hreaches, hleft⟩ := hagrees.exists_tornDown hc.gone
      ⟨hunused.notStart, hunused.teardown, hunused.closer, hunused.register⟩ .loop
    exact ⟨l', hends.trans hreaches, hleft⟩
  · -- the loop has ended before
    have hagrees : Agrees side l { c with loop := .over } :=
      ⟨⟨h.phase, h.shut, h.table, h.done⟩, h.hasSide, hended ▸ rfl, h.unfailed⟩
    have hmove : Move side c { c with loop := .over } := .loops hfrom rfl
    exact hagrees.tornDown (hc.move hmove)

/-! ### Starts -/

theorem Agrees.refused (h : Agrees side l c) (hc : c.Coherent) (hserver : side = .server)
    (hloop : c.loop = .unstarted) (hshut : c.shut = true) :
    ∃ l', Reaches l l' ∧ Agrees side l' { c with loop := .over } := by
  have hidle := (hloop ▸ h.starting).of_unstarted
  have hphase : c.phase = .disconnected := by
    have hphase := hc.unstarted hloop
    rwa [hshut, if_pos rfl] at hphase
  have hreaches : Reaches l
      ({ l with starting := .ended }.addTeardown startTask ⟨.starter, .entering⟩) :=
    ⟨[.start, .start], by
      simp [run, step, stepStart, hidle, h.hasSide, hserver, h.shut, hshut]⟩
  have hrests : Rests { l with starting := .ended } { c with loop := .over } :=
    ⟨h.phase, h.shut, h.table, h.done⟩
  obtain ⟨l', hfails, hagrees⟩ :=
    hrests.exists_failed h.hasSide hc.gone rfl (h.unfailed (by simp [hidle])) rfl
  have hover : c.phase.isOver = true := by
    rw [hphase]
    rfl
  rw [Connection.teardown, if_pos hover] at hagrees
  exact ⟨l', hreaches.trans hfails, hagrees⟩

theorem Agrees.served (h : Agrees side l c) (hserver : side = .server)
    (hloop : c.loop = .unstarted) (hopen : c.shut = false) :
    ∃ l', Reaches l l' ∧ Agrees side l' { c with phase := .connected, loop := .reading } := by
  have hidle := (hloop ▸ h.starting).of_unstarted
  have hreaches : Reaches l
      { l.setPhase .connected with readerTaken := true, starting := .running } :=
    ⟨[.start, .start, .start], by
      simp [run, step, stepStart, setPhase, hidle, h.hasSide, hserver, h.shut, hopen]⟩
  have hunfailed := h.unfailed (by simp [hidle])
  exact ⟨_, hreaches, ⟨⟨rfl, h.shut, h.table, h.done⟩, h.hasSide, rfl, fun _ => hunfailed⟩⟩

theorem Agrees.dialed (h : Agrees side l c) (hclient : side = .client)
    (hloop : c.loop = .unstarted) (hopen : c.shut = false) :
    ∃ l', Reaches l l' ∧ l'.starting = .greeting ∧
      Agrees side l' { c with phase := .connecting, loop := .greeting } := by
  have hidle := (hloop ▸ h.starting).of_unstarted
  have hreaches : Reaches l
      { l.setPhase .connecting with readerTaken := true, starting := .greeting } :=
    ⟨[.start, .start], by
      simp [run, step, stepStart, setPhase, hidle, h.hasSide, hclient, h.shut, hopen]⟩
  have hunfailed := h.unfailed (by simp [hidle])
  exact ⟨_, hreaches, rfl, ⟨⟨rfl, h.shut, h.table, h.done⟩, h.hasSide, Or.inl rfl,
    fun _ => hunfailed⟩⟩

/-- A start that waited for the greeting has failed. -/
theorem Agrees.ungreeted (h : Agrees side l c) (hgone : c.phase.isOver = true →
    c.phase = .disconnected ∧ c.shut = true) (hgreeting : l.starting = .greeting) :
    ∃ l', Reaches l l' ∧ Agrees side l' { c with loop := .over }.teardown.1 := by
  have hreaches : Reaches l
      ({ l with starting := .ended }.addTeardown startTask ⟨.starter, .entering⟩) :=
    ⟨[.greeted false], by simp [run, step, greeted, hgreeting]⟩
  have hrests : Rests { l with starting := .ended } { c with loop := .over } :=
    ⟨h.phase, h.shut, h.table, h.done⟩
  obtain ⟨l', hfails, hagrees⟩ :=
    hrests.exists_failed h.hasSide hgone rfl (h.unfailed (by simp [hgreeting])) rfl
  exact ⟨l', hreaches.trans hfails, hagrees⟩

theorem Agrees.dialedInVain (h : Agrees side l c) (hclient : side = .client)
    (hloop : c.loop = .unstarted) : ∃ l', Reaches l l' ∧
      Agrees side l' { c with phase := .connecting, loop := .over }.teardown.1 := by
  have hup : Phase.connecting.isOver = true → Phase.connecting = .disconnected ∧ c.shut = true :=
    fun hover => absurd hover Bool.false_ne_true
  cases hshut : c.shut with
  | true =>
    have hidle := (hloop ▸ h.starting).of_unstarted
    have hreaches : Reaches l ({ l.setPhase .connecting with starting := .ended }.addTeardown
        startTask ⟨.starter, .entering⟩) :=
      ⟨[.start, .start], by
        simp [run, step, stepStart, setPhase, hidle, h.hasSide, hclient, h.shut, hshut]⟩
    have hrests : Rests { l.setPhase .connecting with starting := .ended }
        { c with phase := .connecting, loop := .over } := ⟨rfl, h.shut, h.table, h.done⟩
    obtain ⟨l', hfails, hagrees⟩ :=
      hrests.exists_failed h.hasSide hup rfl (h.unfailed (by simp [hidle])) rfl
    exact ⟨l', hreaches.trans hfails, hagrees⟩
  | false =>
    obtain ⟨dialing, hdials, hgreeting, hagrees⟩ := h.dialed hclient hloop hshut
    obtain ⟨l', hfails, hfailed⟩ := hagrees.ungreeted hup hgreeting
    exact ⟨l', hdials.trans hfails, hfailed⟩

theorem Agrees.established (h : Agrees side l c) (hloop : c.loop = .greeted) :
    ∃ l', Reaches l l' ∧ Agrees side l' { c with phase := .connected, loop := .reading } := by
  have hgreeting := h.starting.of_greeting (Or.inr hloop)
  have hreaches : Reaches l { l.setPhase .connected with starting := .running } :=
    ⟨[.greeted true, .start], by simp [run, step, stepStart, greeted, setPhase, hgreeting]⟩
  have hunfailed := h.unfailed (by simp [hgreeting])
  exact ⟨_, hreaches, ⟨⟨rfl, h.shut, h.table, h.done⟩, h.hasSide, rfl, fun _ => hunfailed⟩⟩

/-! ### Moves and runs -/

/-- Every move is made in some life. -/
theorem Agrees.move (h : Agrees side l c) (hc : c.Coherent) (hmove : Move side c c') :
    ∃ l', Reaches l l' ∧ Agrees side l' c' := by
  cases hmove with
  | work hphase hshut hloop htable =>
    obtain ⟨race, hreaches, hturned, hclosers⟩ := exists_turned (h.table ▸ htable)
    exact ⟨_, hreaches, h.of_race hclosers hturned hphase hshut hloop⟩
  | numbered hcall hopen hfresh =>
    have hup : c.phase = .connected :=
      (hc.called hcall).resolve_right fun hshut => by
        rw [hc.closed, hshut] at hopen
        cases hopen
    obtain ⟨race, hreaches, htable, hclosers⟩ := exists_numbered (h.phase.trans hup)
      ((congrArg CallTable.closed h.table).trans hopen) (by rwa [h.table])
    exact ⟨_, hreaches, h.of_race hclosers (htable.trans (by rw [h.table])) rfl rfl rfl⟩
  | loops hfrom hto =>
    refine ⟨l, .refl l, ⟨⟨h.phase, h.shut, h.table, h.done⟩, h.hasSide, ?_, h.unfailed⟩⟩
    rcases h.starting.of_isStarting_false hfrom with hstarting | hstarting <;>
      exact hstarting ▸ hto
  | left hfrom => exact h.left hc hfrom
  | tornDown => exact h.tornDown hc
  | refused hside hloop hshut => exact h.refused hc hside hloop hshut
  | served hside hloop hopen => exact h.served hside hloop hopen
  | dialed hside hloop hopen =>
    obtain ⟨l', hreaches, -, hagrees⟩ := h.dialed hside hloop hopen
    exact ⟨l', hreaches, hagrees⟩
  | dialedInVain hside hloop => exact h.dialedInVain hside hloop
  | greeted hloop =>
    have hgreeting := h.starting.of_greeting (Or.inl hloop)
    exact ⟨l, .refl l, ⟨⟨h.phase, h.shut, h.table, h.done⟩, h.hasSide, hgreeting ▸ Or.inr rfl,
      h.unfailed⟩⟩
  | established hloop => exact h.established hloop
  | failed hloop => exact h.ungreeted hc.gone (h.starting.of_greeting hloop)

theorem Agrees.comes (h : Agrees side l c) (hc : c.Coherent) (hcomes : Connection.Comes side c c') :
    ∃ l', Reaches l l' ∧ Agrees side l' c' := by
  induction hcomes with
  | refl => exact ⟨l, .refl l, h⟩
  | tail hfront hmove ih =>
    obtain ⟨mid, hreaches, hmid⟩ := ih
    obtain ⟨l', hreaches', hagrees⟩ := hmid.move (hc.comes hfront) hmove
    exact ⟨l', hreaches.trans hreaches', hagrees⟩

end Beside

end Life

namespace Connection

variable {σ : Type} {p : Profile σ}

/-- Until the counter comes round, some life goes along with a connection step for step. -/
theorem exists_life (s : σ) (es : List Event)
    (hmax : (drawn p s es).length < 9223372036854775807) : ∃ gs : List (List Life.Event),
      gs.length = es.length ∧ ∀ k ≤ es.length,
        ((Life.new p.side).run (gs.take k).flatten).Agrees p.side
          (run p (.new p s) (es.take k)).1 := by
  refine exists_along (I := fun es fs => ((Life.new p.side).run fs).Agrees p.side
    (run p (.new p s) es).1) s (Life.agrees_new p s)
    (fun front e fs hcoherent hcomes h => ?_) es hmax
  obtain ⟨l', ⟨gs, hgs⟩, hnext⟩ := h.comes hcoherent hcomes
  refine ⟨gs, ?_⟩
  rw [Life.run_append, hgs]
  exact hnext

end Connection

end Rpc
