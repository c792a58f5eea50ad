import Rpc.Proofs.Listener.Admitting
import Rpc.Proofs.Notes

/-! # The accounts of a listener

The task of a socket adds to one of the two counts once, or to neither if the listener was stopped
before there was a connection. When the listener has been stopped and no task goes on, all
connections are gone and none is listed.
-/
namespace Rpc

inductive AdmissionCount
  | accepted | refused
  deriving DecidableEq, Repr

namespace Admitting

/-- What the task of a socket has added to the counts when it stands here. -/
def tally (g : Admitting) : List AdmissionCount :=
  if g.isCounted then [.accepted] else if g = .refused then [.refused] else []

/-- What the next step of the task adds to the counts. -/
def adds (passes : Bool) : Admitting → List AdmissionCount
  | choosing | negotiating => if passes then [] else [.refused]
  | counting => [.accepted]
  | _ => []

def isOver : Admitting → Bool
  | refused | turnedAway | gone => true
  | _ => false

end Admitting

namespace Admission

variable {a a' : Admission} {socket task : Nat} {g g' : Admitting} {h h' : Halting} {l : Life}
  {passes : Bool} {es : List Event}

/-! ## Counting -/

/-- What a step adds to the counts, with the socket whose task takes it. -/
def tallied (a : Admission) (e : Event) : List (Nat × AdmissionCount) :=
  match e with
  | .advance socket _ =>
    List.replicate ((a.step e).accepted - a.accepted) (socket, .accepted) ++
      List.replicate ((a.step e).refused - a.refused) (socket, .refused)
  | _ => []

/-- All that a run adds to the counts, in order. -/
def tally (es : List Event) : List (Nat × AdmissionCount) := notes step tallied new es

/-- What the task of one socket adds to the counts. -/
def tallyOf (socket : Nat) (es : List Event) : List (Nat × AdmissionCount) :=
  (tally es).filter (·.1 = socket)

theorem stepSocket_counts (a : Admission) (socket : Nat) (passes : Bool) (g : Admitting) :
    (a.stepSocket socket passes g).accepted = a.accepted + (g.adds passes).count .accepted ∧
      (a.stepSocket socket passes g).refused = a.refused + (g.adds passes).count .refused := by
  cases g with
  | choosing | negotiating => cases passes <;> exact ⟨rfl, rfl⟩
  | counting => exact ⟨rfl, rfl⟩
  | starting =>
    simp only [stepSocket, goOn]
    split
    · split <;> exact ⟨rfl, rfl⟩
    · exact ⟨rfl, rfl⟩
  | ending | lookingAgain | stopping | waiting =>
    simp only [stepSocket]
    split <;> exact ⟨rfl, rfl⟩
  | looking | making | listing | failing | leaving | refused | turnedAway | gone => exact ⟨rfl, rfl⟩

theorem tallied_advance (hg : a.sockets.lookup socket = some g) :
    a.tallied (.advance socket passes) = (g.adds passes).map (socket, ·) := by
  obtain ⟨haccepted, hrefused⟩ := stepSocket_counts a socket passes g
  simp only [tallied, step, hg, haccepted, hrefused, Nat.add_sub_cancel_left]
  cases g with
  | choosing | negotiating => cases passes <;> rfl
  | _ => rfl

theorem tally_next {g' : Admitting} (hg' : g' ∈ g.next passes) :
    g'.tally = g.tally ++ g.adds passes := by
  cases g with
  | choosing | negotiating =>
    rw [List.mem_singleton.mp hg']
    cases passes <;> rfl
  | looking | starting | ending | lookingAgain | stopping | waiting =>
    simp only [Admitting.next, List.mem_cons, List.not_mem_nil, or_false] at hg'
    rcases hg' with rfl | rfl | rfl <;> rfl
  | making | listing | counting | failing | leaving | refused | turnedAway | gone =>
    rw [List.mem_singleton.mp hg']
    rfl

/-- A task that goes on stands for what it has added since. -/
theorem stepSocket_tally (hg : a.sockets.lookup socket = some g) (passes : Bool) :
    ∃ g', (a.stepSocket socket passes g).sockets.lookup socket = some g' ∧
      g'.tally = g.tally ++ g.adds passes := by
  obtain ⟨g', hmem, hg'⟩ := lookup_stepSocket hg passes
  exact ⟨g', hg', tally_next hmem⟩

theorem find_frame (a : Admission) (task socket : Nat) (ahead found : List Nat) :
    (a.find task socket ahead found).sockets = a.sockets ∧
      (a.find task socket ahead found).accepted = a.accepted ∧
        (a.find task socket ahead found).refused = a.refused := by
  unfold find
  split <;> exact ⟨rfl, rfl, rfl⟩

/-- Only an acceptance and the task of a socket change what the sockets and the counts say. -/
theorem step_frame {e : Event} (haccept : ∀ socket, e ≠ .accept socket)
    (hadvance : ∀ socket passes, e ≠ .advance socket passes) :
    (a.step e).sockets = a.sockets ∧ (a.step e).accepted = a.accepted ∧
      (a.step e).refused = a.refused := by
  cases e with
  | accept socket => exact absurd rfl (haccept socket)
  | advance socket passes => exact absurd rfl (hadvance socket passes)
  | loopEnds | beginStop task =>
    simp only [step]
    split <;> exact ⟨rfl, rfl, rfl⟩
  | stop task =>
    simp only [step]
    split
    · rename_i h _
      cases h with
      | raising | collecting | done => exact ⟨rfl, rfl, rfl⟩
      | taking | joining | stopping =>
        simp only [stepHalt]
        split <;> exact ⟨rfl, rfl, rfl⟩
      | gathering ahead found =>
        cases ahead with
        | nil => exact ⟨rfl, rfl, rfl⟩
        | cons socket ahead => exact find_frame a task socket ahead found
    · exact ⟨rfl, rfl, rfl⟩
  | gather task socket =>
    simp only [step]
    split
    · exact find_frame a task socket _ _
    · exact ⟨rfl, rfl, rfl⟩
  | handle socket =>
    simp only [step, handle]
    split
    · split <;> exact ⟨rfl, rfl, rfl⟩
    · exact ⟨rfl, rfl, rfl⟩
  | live socket e => exact ⟨rfl, rfl, rfl⟩

inductive Goes (socket : Nat) (e : Event) : Option Admitting → Option Admitting → Prop
  | stays (g : Option Admitting) : Goes socket e g g
  | comes : e = .accept socket → Goes socket e none (some .choosing)
  | goes {g g' : Admitting} (passes : Bool) : e = .advance socket passes → g' ∈ g.next passes →
      Goes socket e (some g) (some g')

theorem goes_step (a : Admission) (socket : Nat) (e : Event) :
    Goes socket e (a.sockets.lookup socket) ((a.step e).sockets.lookup socket) := by
  cases e with
  | accept other =>
    simp only [step]
    split
    · rename_i hfree
      rw [lookup_concat]
      by_cases hsocket : socket = other
      · subst hsocket
        rw [Option.isNone_iff_eq_none.mp hfree.2, if_pos rfl]
        exact .comes rfl
      · rw [if_neg hsocket, Option.or_none]
        exact .stays _
    · exact .stays _
  | advance other passes =>
    simp only [step]
    split
    · rename_i g hg
      by_cases hsocket : socket = other
      · subst hsocket
        obtain ⟨g', hmem, hg'⟩ := lookup_stepSocket hg passes
        rw [hg, hg']
        exact .goes passes rfl hmem
      · rw [(stepSocket_sameAt a hsocket passes g).sockets]
        exact .stays _
    · exact .stays _
  | loopEnds | beginStop | stop | gather | handle | live =>
    rw [(step_frame (a := a) (fun _ => Event.noConfusion) fun _ _ => Event.noConfusion).1]
    exact .stays _

theorem tally_concat (es : List Event) (e : Event) :
    tally (es ++ [e]) = tally es ++ (new.run es).tallied e := notes_concat es e

theorem counts_run (es : List Event) :
    (new.run es).accepted = (tally es).countP (·.2 = .accepted) ∧
      (new.run es).refused = (tally es).countP (·.2 = .refused) := by
  induction es using List.reverseRecOn with
  | nil => exact ⟨rfl, rfl⟩
  | append_singleton es e ih =>
    rw [run_concat, tally_concat, List.countP_append, List.countP_append, ← ih.1, ← ih.2]
    generalize new.run es = a
    by_cases hadvance : ∃ socket passes, e = .advance socket passes
    · obtain ⟨socket, passes, rfl⟩ := hadvance
      cases hg : a.sockets.lookup socket with
      | none => simp [tallied, step, hg]
      | some g =>
        obtain ⟨haccepted, hrefused⟩ := stepSocket_counts a socket passes g
        rw [tallied_advance hg, List.countP_map, List.countP_map]
        simp only [step, hg, haccepted, hrefused]
        constructor <;> rfl
    · have hnone : a.tallied e = [] := by
        cases e with
        | advance socket passes => exact absurd ⟨socket, passes, rfl⟩ hadvance
        | accept | loopEnds | beginStop | stop | gather | handle | live => rfl
      rw [hnone]
      by_cases haccept : ∃ socket, e = .accept socket
      · obtain ⟨socket, rfl⟩ := haccept
        simp only [step]
        split <;> exact ⟨rfl, rfl⟩
      · exact (step_frame (fun socket he => haccept ⟨socket, he⟩)
          fun socket passes he => hadvance ⟨socket, passes, he⟩).2

/-- The task of each socket stands for what it has added to the counts. -/
theorem tallyOf_eq (socket : Nat) (es : List Event) :
    tallyOf socket es =
      (((new.run es).sockets.lookup socket).elim [] Admitting.tally).map (socket, ·) := by
  induction es using List.reverseRecOn with
  | nil => rfl
  | append_singleton es e ih =>
    unfold tallyOf at ih ⊢
    rw [run_concat, tally_concat, List.filter_append, ih]
    generalize new.run es = a
    cases e with
    | advance other passes =>
      cases hg : a.sockets.lookup other with
      | none => simp [tallied, step, hg]
      | some g =>
        rw [tallied_advance hg]
        simp only [step, hg]
        by_cases hsocket : socket = other
        · subst hsocket
          obtain ⟨g', hg', htally⟩ := stepSocket_tally hg passes
          have hall : ((g.adds passes).map (socket, ·)).filter (·.1 = socket) =
              (g.adds passes).map (socket, ·) := by
            rw [List.filter_eq_self]
            intro x hx
            obtain ⟨c, -, rfl⟩ := List.mem_map.mp hx
            exact decide_eq_true rfl
          rw [hall, hg, hg', Option.elim_some, Option.elim_some, htally, List.map_append]
        · have hnone : ((g.adds passes).map (other, ·)).filter (·.1 = socket) = [] := by
            rw [List.filter_eq_nil_iff]
            intro x hx
            obtain ⟨c, -, rfl⟩ := List.mem_map.mp hx
            simpa using Ne.symm hsocket
          rw [hnone, List.append_nil, (stepSocket_sameAt a hsocket passes g).sockets]
    | accept other =>
      rw [show a.tallied (.accept other) = [] from rfl, List.filter_nil, List.append_nil]
      simp only [step]
      split
      · rename_i hfree
        rw [lookup_concat]
        by_cases hsocket : socket = other
        · subst hsocket
          rw [Option.isNone_iff_eq_none.mp hfree.2, if_pos rfl]
          rfl
        · rw [if_neg hsocket, Option.or_none]
      · rfl
    | loopEnds | beginStop | stop | gather | handle | live =>
      rw [(step_frame (a := a) (fun _ => Event.noConfusion) fun _ _ => Event.noConfusion).1]
      exact List.append_nil _

/-! ## Who stops the listener -/

theorem isSome_setHalt (hsame : a'.halts = a.halts) (other : Nat) (after : Halting) :
    ((a'.setHalt other after).halts.lookup task).isSome = true ↔
      (a.halts.lookup task).isSome = true := by
  rw [lookup_setHalt, hsame]
  split
  · rw [Option.isSome_map]
  · rfl

theorem isSome_find (other socket : Nat) (ahead found : List Nat) :
    ((a.find other socket ahead found).halts.lookup task).isSome = true ↔
      (a.halts.lookup task).isSome = true := by
  unfold find
  split <;> exact isSome_setHalt rfl _ _

theorem isSome_stepHalt (other : Nat) (h : Halting) :
    ((a.stepHalt other h).halts.lookup task).isSome = true ↔
      (a.halts.lookup task).isSome = true := by
  cases h with
  | raising | collecting => exact isSome_setHalt rfl _ _
  | taking =>
    simp only [stepHalt]
    split <;> exact isSome_setHalt rfl _ _
  | joining | stopping =>
    simp only [stepHalt]
    split
    · first | exact Iff.rfl | exact isSome_setHalt rfl _ _
    · first | exact Iff.rfl | exact isSome_setHalt rfl _ _
  | gathering ahead found =>
    cases ahead with
    | nil => exact isSome_setHalt rfl _ _
    | cons socket ahead => exact isSome_find other socket ahead found
  | done => exact Iff.rfl

theorem isSome_halts_iff (es : List Event) (task : Nat) :
    ((new.run es).halts.lookup task).isSome = true ↔ .beginStop task ∈ es := by
  induction es using List.reverseRecOn with
  | nil => simp [run, new]
  | append_singleton es e ih =>
    rw [run_concat, List.mem_append, List.mem_singleton, ← ih]
    generalize new.run es = a
    cases e with
    | beginStop other =>
      simp only [step]
      by_cases hother : task = other
      · subst hother
        simp only [or_true, iff_true]
        split
        · assumption
        · cases hlookup : a.halts.lookup task <;> simp [lookup_concat, hlookup]
      · have hne : Event.beginStop other ≠ .beginStop task := fun heq =>
          hother (Event.beginStop.inj heq).symm
        rw [or_iff_left hne.symm]
        split
        · rfl
        · rw [lookup_concat, if_neg hother, Option.or_none]
    | accept socket | loopEnds =>
      simp only [step, reduceCtorEq, or_false]
      split <;> exact Iff.rfl
    | advance socket passes =>
      simp only [step, reduceCtorEq, or_false]
      split
      · rw [(stepSocket_frame a socket passes _).1]
      · exact Iff.rfl
    | stop other =>
      simp only [step, reduceCtorEq, or_false]
      split
      · exact isSome_stepHalt other _
      · exact Iff.rfl
    | gather other socket =>
      simp only [step, reduceCtorEq, or_false]
      split
      · exact isSome_find other socket _ _
      · exact Iff.rfl
    | handle socket =>
      simp only [step, handle, reduceCtorEq, or_false]
      split
      · split <;> exact Iff.rfl
      · exact Iff.rfl
    | live socket e => simp only [step, updateLife, reduceCtorEq, or_false]

theorem stopped_step {e : Event} (h : (a.step e).stopped = true) :
    a.stopped = true ∨ ∃ task, (a.halts.lookup task).isSome = true := by
  cases e with
  | accept | beginStop | loopEnds =>
    simp only [step] at h
    split at h <;> exact Or.inl h
  | advance socket passes =>
    simp only [step] at h
    split at h
    · rw [(stepSocket_frame a socket passes _).2.1] at h
      exact Or.inl h
    · exact Or.inl h
  | stop task =>
    simp only [step] at h
    split at h
    · rename_i hh
      exact Or.inr ⟨task, by rw [hh]; rfl⟩
    · exact Or.inl h
  | gather task socket =>
    simp only [step] at h
    split at h
    · rename_i hh
      exact Or.inr ⟨task, by rw [hh]; rfl⟩
    · exact Or.inl h
  | handle socket =>
    simp only [step, handle] at h
    split at h
    · split at h <;> exact Or.inl h
    · exact Or.inl h
  | live => exact Or.inl h

theorem begun_of_stopped (es : List Event) (h : (new.run es).stopped = true) :
    ∃ task, .beginStop task ∈ es := by
  induction es using List.reverseRecOn with
  | nil => cases h
  | append_singleton es e ih =>
    rw [run_concat] at h
    rcases stopped_step h with hstopped | ⟨task, hsome⟩
    · obtain ⟨task, hmem⟩ := ih hstopped
      exact ⟨task, List.mem_append_left _ hmem⟩
    · exact ⟨task, List.mem_append_left _ ((isSome_halts_iff es task).mp hsome)⟩

/-- A listener that has not been stopped keeps its accept loop. -/
theorem accepting_step (hstopped : a.stopped = false) (e : Event) :
    (a.step e).accepting = a.accepting := by
  cases e with
  | loopEnds => simp [step, hstopped]
  | accept | beginStop =>
    simp only [step]
    split <;> rfl
  | advance socket passes =>
    simp only [step]
    split
    · rename_i g _
      cases g with
      | starting =>
        simp only [stepSocket, goOn]
        split
        · split <;> rfl
        · rfl
      | choosing | negotiating | ending | lookingAgain | stopping | waiting =>
        simp only [stepSocket]
        split <;> rfl
      | looking | making | listing | counting | failing | leaving | refused | turnedAway | gone =>
        rfl
    · rfl
  | stop task =>
    simp only [step]
    split
    · rename_i h _
      cases h with
      | raising | collecting | done => rfl
      | taking | joining | stopping =>
        simp only [stepHalt]
        split <;> rfl
      | gathering ahead found =>
        cases ahead with
        | nil => rfl
        | cons socket ahead =>
          simp only [stepHalt, find]
          split <;> rfl
    · rfl
  | gather task socket =>
    simp only [step]
    cases a.halts.lookup task with
    | none => rfl
    | some h =>
      cases h with
      | gathering ahead found =>
        simp only [find]
        split <;> rfl
      | raising | taking | joining | collecting | stopping | done => rfl
  | handle socket =>
    simp only [step, handle]
    cases a.life? socket with
    | none => rfl
    | some l =>
      dsimp only
      split <;> rfl
  | live socket e => rfl

/-- As long as nobody begins a stop, the listener accepts. -/
theorem accepting_run (es : List Event) (h : ∀ task, .beginStop task ∉ es) :
    (new.run es).accepting = true ∧ (new.run es).stopped = false := by
  have hstopped : ∀ es : List Event, (∀ task, .beginStop task ∉ es) →
      (new.run es).stopped = false := by
    intro es h
    refine Bool.eq_false_iff.mpr fun hstopped => ?_
    obtain ⟨task, hmem⟩ := begun_of_stopped es hstopped
    exact h task hmem
  refine ⟨?_, hstopped es h⟩
  induction es using List.reverseRecOn with
  | nil => rfl
  | append_singleton es e ih =>
    have hfront : ∀ task, .beginStop task ∉ es := fun task hmem =>
      h task (List.mem_append_left _ hmem)
    rw [run_concat, accepting_step (hstopped es hfront), ih hfront]

/-! ## When no task goes on -/

theorem setSocket_ne (hg : a.sockets.lookup socket = some g) (hsame : a'.sockets = a.sockets)
    (hne : g' ≠ g) : a'.setSocket socket g' ≠ a := by
  intro heq
  have hlookup := lookup_setSocket a' socket socket g'
  rw [heq, if_pos rfl, hsame, hg] at hlookup
  exact hne (Option.some.inj hlookup).symm

theorem setHalt_ne (hh : a.halts.lookup task = some h) (hsame : a'.halts = a.halts)
    (hne : h' ≠ h) : a'.setHalt task h' ≠ a := by
  intro heq
  have hlookup := lookup_setHalt a' task task h'
  rw [heq, if_pos rfl, hsame, hh] at hlookup
  exact hne (Option.some.inj hlookup).symm

namespace IsQuiet

theorem atSocket (hq : a.IsQuiet) (hg : a.sockets.lookup socket = some g) (hne : g ≠ .negotiating)
    (passes : Bool) : a.stepSocket socket passes g = a := by
  have hdue : a.IsDue (.advance socket passes) := by
    change a.sockets.lookup socket ≠ _
    rw [hg]
    exact fun heq => hne (Option.some.inj heq)
  have hsame := hq _ hdue
  simp only [step, hg] at hsame
  exact hsame

theorem atHalt (hq : a.IsQuiet) (hh : a.halts.lookup task = some h) : a.stepHalt task h = a := by
  have hsame := hq (.stop task) trivial
  simp only [step, hh] at hsame
  exact hsame

theorem atRest (hq : a.IsQuiet) (hl : a.life? socket = some l) : l.AtRest := by
  intro task
  have hsame := hq (.live socket (.wind task)) trivial
  have hlife := life?_updateLife a socket socket (disturb · (.wind task))
  simp only [step] at hsame
  rw [hsame, if_pos rfl, hl] at hlife
  exact (Option.some.inj hlife).symm

/-- A stop that is called has gone through the list and stops what it has found. -/
theorem halted (hq : a.IsQuiet) (hkept : Kept a) (hh : a.halts.lookup task = some h) :
    a.stopped = true ∧ ∀ k, ¬ h.Awaits k := by
  have hsame := hq.atHalt hh
  have hnot : ∀ {a' : Admission} {h' : Halting}, a'.setHalt task h' = a → a'.halts = a.halts →
      ¬ h' ≠ h := fun hset hsame hne => setHalt_ne hh hsame hne hset
  have hraised : h ≠ .raising := by
    rintro rfl
    exact hnot hsame rfl Halting.noConfusion
  have hstopped := hkept.raised task h hh hraised
  refine ⟨hstopped, fun k hawaits => ?_⟩
  cases h with
  | raising => exact hraised rfl
  | taking =>
    simp only [stepHalt] at hsame
    split at hsame
    · exact hnot hsame rfl Halting.noConfusion
    · exact hnot hsame rfl Halting.noConfusion
  | joining =>
    have hended : a.accepting = false := by
      have hloop := hq .loopEnds trivial
      simp only [step, hstopped, if_true] at hloop
      exact (congrArg accepting hloop).symm
    simp only [stepHalt, hended, Bool.false_eq_true, if_false] at hsame
    exact hnot hsame rfl Halting.noConfusion
  | collecting => exact hnot hsame rfl Halting.noConfusion
  | gathering ahead found =>
    cases ahead with
    | nil => exact hnot hsame rfl Halting.noConfusion
    | cons socket ahead =>
      have hshorter : ∀ found', Halting.gathering ahead found' ≠ .gathering (socket :: ahead) found := by
        intro found' heq
        injection heq with heq
        exact absurd (congrArg List.length heq) (by simp)
      simp only [stepHalt, find] at hsame
      split at hsame
      · exact hnot hsame rfl (hshorter _)
      · exact hnot hsame rfl (hshorter _)
  | stopping connections => exact hawaits
  | done => exact hawaits

theorem gone (hq : a.IsQuiet) (hl : a.life? socket = some l) (hundropped : Life.Undropped l)
    (hdoomed : Life.Doomed l) : l.phase = .disconnected :=
  hundropped.gone_of_atRest (hq.atRest hl) (hdoomed.isOver (hq.atRest hl) hundropped.drained)

theorem hasDone (hq : a.IsQuiet) (hl : a.life? socket = some l) (hundropped : Life.Undropped l)
    (hgone : l.phase = .disconnected) (task : Nat) : a.hasDone task socket = true := by
  have hrest := hq.atRest hl
  simp only [Admission.hasDone, hl]
  split
  · rename_i t ht
    have hlive := hrest.isLive_eq_false hundropped.drained ht
    have hstays := hundropped.noneDropped task t ht
    obtain ⟨actor, progress⟩ := t
    cases progress with
    | done => rfl
    | dropped => exact absurd rfl hstays
    | waiting =>
      have hsame := hrest.stepTeardown ht
      simp only [Life.stepTeardown, hgone, if_true] at hsame
      exact absurd hsame (Life.setTeardown_ne ht rfl Winding.noConfusion)
    | looking | noticing | entering | shutting | graceful | socket | tabling | draining
    | marking => cases hlive
  · rfl

/-- Once the listener has been stopped, the tasks that still stand somewhere negotiate. -/
theorem finished (hq : a.IsQuiet) (hkept : Kept a) (hh : a.halts.lookup task = some h)
    (hg : a.sockets.lookup socket = some g) : g.isOver = true ∨ g = .negotiating := by
  obtain ⟨hstopped, hhalted⟩ := hq.halted hkept hh
  have hnot : ∀ {a' : Admission} {g' : Admitting}, a'.setSocket socket g' = a →
      a'.sockets = a.sockets → ¬ g' ≠ g := fun hset hsame hne => setSocket_ne hg hsame hne hset
  have hsame := fun hne => hq.atSocket hg hne true
  have hc := hkept.consistent socket
  cases g with
  | refused | turnedAway | gone => exact Or.inl rfl
  | negotiating => exact Or.inr rfl
  | choosing | making | listing | counting | failing | leaving =>
    exact (hnot (hsame Admitting.noConfusion) rfl Admitting.noConfusion).elim
  | looking =>
    have hset := hsame Admitting.noConfusion
    simp only [stepSocket, hstopped, if_true] at hset
    exact (hnot hset rfl Admitting.noConfusion).elim
  | starting =>
    obtain ⟨l, hl, hf⟩ := hc.exists_life hg rfl
    have hset := congrArg (life? · socket) (hsame Admitting.noConfusion)
    have hlife : (a.updateLife socket fun _ => l.step .start).life? socket =
        some (l.step .start) := by
      rw [life?_updateLife, if_pos rfl, hl]
      rfl
    have hgoes : (a.goOn socket).life? socket = some (l.step .start) := by
      simp only [goOn, hl]
      split <;> exact hlife
    exact absurd (Option.some.inj (hgoes.symm.trans (hset.trans hl))) (Life.step_start_ne hf.allows)
  | ending =>
    obtain ⟨l, hl, hf⟩ := hc.exists_life hg rfl
    have hgone := (isGone_iff hl).mpr (hq.gone hl hf.undropped (hf.ending rfl))
    have hset := hsame Admitting.noConfusion
    simp only [stepSocket, hgone, if_true] at hset
    exact (hnot hset rfl Admitting.noConfusion).elim
  | lookingAgain =>
    have hset := hsame Admitting.noConfusion
    simp only [stepSocket, hstopped, if_true] at hset
    exact (hnot hset rfl Admitting.noConfusion).elim
  | stopping =>
    obtain ⟨l, hl, hf⟩ := hc.exists_life hg rfl
    have hgone := hq.gone hl hf.undropped (hf.ending rfl)
    have hset := hsame Admitting.noConfusion
    simp only [stepSocket, hq.hasDone hl hf.undropped hgone ownStop, if_true] at hset
    exact (hnot hset rfl Admitting.noConfusion).elim
  | waiting =>
    obtain ⟨l, hl, hf⟩ := hc.exists_life hg rfl
    -- The stop has come by whoever waited on the list.
    have hdoomed := (hf.waiting rfl).resolve_right fun hall => hhalted socket (hall task h hh)
    have hgone := (isGone_iff hl).mpr (hq.gone hl hf.undropped hdoomed)
    have hset := hsame Admitting.noConfusion
    simp only [stepSocket, hgone, if_true] at hset
    exact (hnot hset rfl Admitting.noConfusion).elim

/-- Once the listener has been stopped, no connection is listed and all are gone. -/
theorem ended (hq : a.IsQuiet) (hkept : Kept a) (hh : a.halts.lookup task = some h) :
    a.live = [] ∧ ∀ x ∈ a.lives, x.2.phase = .disconnected := by
  constructor
  · rw [List.eq_nil_iff_forall_not_mem]
    intro socket hmem
    have hlisted := (hkept.consistent socket).listed.mp hmem
    cases hg : a.sockets.lookup socket with
    | none =>
      rw [hg] at hlisted
      cases hlisted
    | some g =>
      rw [hg] at hlisted
      rcases hq.finished hkept hh hg with hover | rfl
      · cases g with
        | refused | turnedAway | gone => cases hlisted
        | choosing | negotiating | looking | making | listing | counting | starting | failing
        | ending | lookingAgain | stopping | waiting | leaving => cases hover
      · cases hlisted
  · intro x hx
    have hl : a.life? x.1 = some x.2 := lookup_of_mem hkept.keys hx
    obtain ⟨g, hg, hf⟩ := (hkept.consistent x.1).exists_of_life hl
    have hallows := hf.allows
    rcases hq.finished hkept hh hg with hover | rfl
    · cases g with
      | gone => exact hf.gone rfl
      | refused | turnedAway => exact hallows.elim
      | choosing | negotiating | looking | making | listing | counting | starting | failing
      | ending | lookingAgain | stopping | waiting | leaving => cases hover
    · exact hallows.elim

end IsQuiet

theorem updateLife_eq_self (hkeys : (a.lives.map Prod.fst).Nodup) {f : Life → Life}
    (hf : ∀ l, a.life? socket = some l → f l = l) : a.updateLife socket f = a := by
  have hlives : (a.lives.map fun e => if e.1 = socket then (socket, f e.2) else e) = a.lives := by
    refine (List.map_congr_left fun x hx => ?_).trans (List.map_id _)
    split
    · rename_i hsocket
      subst hsocket
      rw [hf x.2 (lookup_of_mem hkeys hx)]
      rfl
    · rfl
  unfold updateLife
  rw [hlives]

/-- No task goes on when the accept loop has ended, the tasks of all sockets and all stops are
through, and all connections are over and done with. -/
theorem isQuiet_of_done (hkept : Kept a) (haccepting : a.accepting = false)
    (hsockets : ∀ x ∈ a.sockets, x.2.isOver = true) (hhalts : ∀ x ∈ a.halts, x.2 = .done)
    (hlives : ∀ x ∈ a.lives, (∀ t ∈ x.2.teardowns, t.2.progress = .done) ∧ x.2.starting = .ended) :
    a.IsQuiet := by
  intro e hdue
  cases e with
  | advance socket passes =>
    simp only [step]
    split
    · rename_i g hg
      have hover : g.isOver = true := hsockets _ (mem_of_lookup hg)
      cases g with
      | refused | turnedAway | gone => rfl
      | choosing | negotiating | looking | making | listing | counting | starting | failing
      | ending | lookingAgain | stopping | waiting | leaving => cases hover
    · rfl
  | loopEnds =>
    simp only [step, ← haccepting]
    split <;> rfl
  | stop task =>
    simp only [step]
    split
    · rename_i h hh
      have hdone : h = .done := hhalts _ (mem_of_lookup hh)
      rw [hdone, stepHalt]
    · rfl
  | live socket e =>
    refine updateLife_eq_self hkept.keys (f := (disturb · e)) fun l hl => ?_
    obtain ⟨hdone, hended⟩ := hlives _ (mem_of_lookup hl)
    cases e with
    | wind task => exact Life.atRest_of_done hdone task
    | loopEnds task =>
      have hidle : ¬ (l.starting = .running ∧ l.isFree (foreign task) = true) := by
        rw [hended]
        exact fun h => Starting.noConfusion h.1
      simp only [disturb, Life.step, if_neg hidle]
    | start | greeted | beginStop | writeFails | drop | call | race => cases hdue
  | accept | beginStop | gather | handle => cases hdue

/-! ## The accounts -/

structure Accounts (es : List Event) : Prop where
  accepted : (new.run es).accepted = (tally es).countP (·.2 = .accepted)
  refused : (new.run es).refused = (tally es).countP (·.2 = .refused)
  once : ∀ socket, tallyOf socket es = [] ∨ tallyOf socket es = [(socket, .accepted)] ∨
    tallyOf socket es = [(socket, .refused)]
  /-- A task that is over and has added to neither count was too late for a connection. -/
  neither : ∀ socket g, (new.run es).sockets.lookup socket = some g → g.isOver = true →
    tallyOf socket es = [] → (∃ task, .beginStop task ∈ es) ∧ (new.run es).life? socket = none
  /-- Who handles a frame is listed until it is gone. -/
  handled : ∀ x ∈ (new.run es).handled, x.listed = true ∨ x.phase = .disconnected
  /-- A stop leaves nothing behind when no task goes on. -/
  stopped : (∃ task, .beginStop task ∈ es) → (new.run es).IsQuiet →
    (new.run es).live = [] ∧ ∀ x ∈ (new.run es).lives, x.2.phase = .disconnected
  /-- The tasks of all sockets are over then, apart from those that wait for their peers. -/
  finished : (∃ task, .beginStop task ∈ es) → (new.run es).IsQuiet → ∀ socket g,
    (new.run es).sockets.lookup socket = some g → g.isOver = true ∨ g = .negotiating

theorem accounts_run (es : List Event) : Accounts es := by
  have hkept := kept_run es
  obtain ⟨haccepted, hrefused⟩ := counts_run es
  have hhalt : (∃ task, .beginStop task ∈ es) →
      ∃ task h, (new.run es).halts.lookup task = some h := by
    rintro ⟨task, hmem⟩
    exact ⟨task, Option.isSome_iff_exists.mp ((isSome_halts_iff es task).mpr hmem)⟩
  refine ⟨haccepted, hrefused, ?_, ?_, hkept.handled, ?_, ?_⟩
  · intro socket
    rw [tallyOf_eq]
    cases (new.run es).sockets.lookup socket with
    | none => exact Or.inl rfl
    | some g =>
      simp only [Option.elim_some, Admitting.tally]
      split
      · exact Or.inr (Or.inl rfl)
      · split
        · exact Or.inr (Or.inr rfl)
        · exact Or.inl rfl
  · intro socket g hg hover hnone
    rw [tallyOf_eq, hg] at hnone
    have hturned : g = .turnedAway := by
      cases g with
      | turnedAway => rfl
      | refused | gone => cases hnone
      | choosing | negotiating | looking | making | listing | counting | starting | failing
      | ending | lookingAgain | stopping | waiting | leaving => cases hover
    subst hturned
    have hc := hkept.consistent socket
    exact ⟨begun_of_stopped es (hc.turnedAway hg), hc.lifeless hg rfl⟩
  · intro hbegun hq
    obtain ⟨task, h, hh⟩ := hhalt hbegun
    exact hq.ended hkept hh
  · intro hbegun hq socket g hg
    obtain ⟨task, h, hh⟩ := hhalt hbegun
    exact hq.finished hkept hh hg

end Admission

end Rpc
