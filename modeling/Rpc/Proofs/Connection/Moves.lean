import Mathlib.Data.List.Induction
import Mathlib.Logic.Relation
import Rpc.Proofs.Connection.Numbers
import Rpc.Proofs.Connection.Starting

/-! # The moves of a connection

What a step does to the phase, the stream, the table of waiting calls and the receive loop is a
sequence of a few moves. From these alone it follows how the four hang together.
-/
namespace Rpc

/-- What happens at the table while it stays as open as it is. -/
inductive CallTable.Turns (t : CallTable) : CallTable → Prop
  | same : Turns t t
  | removed (n : UInt64) : Turns t (t.remove n).2
  | allocated : Turns t t.allocate.2

theorem CallTable.Turns.closed_eq {t t' : CallTable} (h : t.Turns t') : t'.closed = t.closed := by
  cases h <;> rfl

namespace Connection

open Message Relation

variable {σ : Type}

inductive Move (side : Side) (c : Connection σ) : Connection σ → Prop
  /-- Calls, handlers and writers come and go. -/
  | work {c' : Connection σ} (hphase : c'.phase = c.phase) (hshut : c'.shut = c.shut)
      (hloop : c'.loop = c.loop) (htable : c.table.Turns c'.table)
      (hcalls : c'.calls ≠ [] → c.calls ≠ [] ∨ c.phase = .connected)
      (hwriters : ∀ x ∈ c'.writers,
        x ∈ c.writers ∨ x.2.purpose.isOfLoop = false ∨ c.loop.isStarting = false) : Move side c c'
  | numbered (hcall : c.calls ≠ []) (hopen : c.table.closed = false)
      (hfresh : c.table.enter.1 ∉ c.table.waiting) : Move side c { c with table := c.table.enter.2 }
  | loops {loop : Loop} (hfrom : c.loop.isStarting = false) (hto : loop.isStarting = false) :
      Move side c { c with loop }
  | left (hfrom : c.loop.isStarting = false) : Move side c c.leave.1
  | tornDown : Move side c c.teardown.1
  | refused (hside : side = .server) (hloop : c.loop = .unstarted) (hshut : c.shut = true) :
      Move side c { c with loop := .over }
  | served (hside : side = .server) (hloop : c.loop = .unstarted) (hopen : c.shut = false) :
      Move side c { c with phase := .connected, loop := .reading }
  | dialed (hside : side = .client) (hloop : c.loop = .unstarted) (hopen : c.shut = false) :
      Move side c { c with phase := .connecting, loop := .greeting }
  | dialedInVain (hside : side = .client) (hloop : c.loop = .unstarted) :
      Move side c { c with phase := .connecting, loop := .over }.teardown.1
  | greeted (hloop : c.loop = .greeting) : Move side c { c with loop := .greeted }
  | established (hloop : c.loop = .greeted) :
      Move side c { c with phase := .connected, loop := .reading }
  | failed (hloop : c.loop = .greeting ∨ c.loop = .greeted) :
      Move side c { c with loop := .over }.teardown.1

/-- The moves that make up a step. -/
abbrev Comes (side : Side) : Connection σ → Connection σ → Prop := ReflTransGen (Move side)

variable {side : Side} {p : Profile σ} {c c' : Connection σ}

/-! ## Operations -/

theorem Move.comes (h : Move side c c') : Comes side c c' := .single h

/-- Only what the moves do not look at has changed. -/
theorem comes_of_eq (hphase : c'.phase = c.phase) (hshut : c'.shut = c.shut)
    (hloop : c'.loop = c.loop) (htable : c'.table = c.table) (hcalls : c'.calls = c.calls)
    (hwriters : c'.writers = c.writers) : Comes side c c' :=
  Move.comes (.work hphase hshut hloop (htable ▸ .same) (fun h => Or.inl (hcalls ▸ h))
    fun _ hx => Or.inl (hwriters ▸ hx))

theorem comes_enqueue {purpose : Purpose} {f : Frame} (h : c.enqueue p purpose f = .ok c')
    (hpurpose : purpose.isOfLoop = false ∨ c.loop.isStarting = false) : Comes side c c' := by
  obtain ⟨-, rfl⟩ := enqueue_ok h
  refine Move.comes (.work rfl rfl rfl .same Or.inl fun x hx => ?_)
  rcases List.mem_append.mp hx with hx | hx
  · exact Or.inl hx
  · rw [List.mem_singleton.mp hx]
    exact Or.inr hpurpose

theorem comes_setStage (caller : Nat) (stage : Stage) : Comes side c (c.setStage caller stage) :=
  Move.comes (.work rfl rfl rfl .same (fun h => Or.inl fun hnone => h (by simp [setStage, hnone]))
    fun _ => Or.inl)

theorem comes_dropWriter (w : Nat) : Comes side c (c.dropWriter w) :=
  Move.comes (.work rfl rfl rfl .same Or.inl fun _ hx => Or.inl (List.mem_filter.mp hx).1)

theorem comes_resolve (n : UInt64) (reply : Reply) : Comes side c (c.resolve n reply) := by
  by_cases h : n ∈ c.table.waiting
  · rw [resolve_of_mem c reply n h]
    exact Move.comes (.work rfl rfl rfl (.removed n)
      (fun h => Or.inl fun hnone => h (by simp [hnone])) fun _ => Or.inl)
  · rw [resolve_of_not_mem c reply n h]

theorem comes_forget (caller : Nat) : Comes side c (c.forget caller) := by
  have hrest : Comes side c { c with calls := c.calls.filter (·.1 ≠ caller) } :=
    Move.comes (.work rfl rfl rfl .same (fun h => Or.inl fun hnone => h (by simp [hnone]))
      fun _ => Or.inl)
  unfold forget
  dsimp only
  split
  · exact hrest.trans (comes_resolve _ _)
  · exact hrest

theorem comes_teardown : Comes side c c.teardown.1 := Move.comes .tornDown

theorem comes_leave (h : c.loop.isStarting = false) : Comes side c c.leave.1 :=
  Move.comes (.left h)

theorem comes_resume {purpose : Purpose} (result : Except TransportError Unit)
    (hpurpose : purpose.isOfLoop = true → c.loop.isStarting = false) :
    Comes side c (c.resume p result purpose).1 := by
  have h := resume_resumed p c result purpose
  generalize c.resume p result purpose = q at h ⊢
  cases h with
  | unchanged => exact .refl
  | awaiting => exact comes_setStage _ _
  | finished caller => exact comes_forget caller
  | greeted hloop => exact Move.comes (.greeted hloop)
  | reading h => exact Move.comes (.loops (hpurpose h) rfl)
  | failed hloop => exact Move.comes (.failed (Or.inl hloop))
  | left h => exact comes_leave (hpurpose h)
  | tornDown => exact comes_teardown

theorem comes_say (hloop : c.loop.isStarting = false) {purpose : Purpose}
    {f : Except CodecError Frame} {otherwise : Connection σ → Progress σ}
    (hother : Comes side c (otherwise c).1) : Comes side c (c.say p purpose f otherwise).1 := by
  have h := say_said p c purpose f otherwise
  generalize c.say p purpose f otherwise = q at h ⊢
  cases h with
  | otherwise => exact hother
  | paused _ hq =>
    have hqueued : Comes side c _ := comes_enqueue hq (Or.inr hloop)
    obtain ⟨-, rfl⟩ := enqueue_ok hq
    exact hqueued.trans (Move.comes (.loops hloop rfl))

theorem comes_violate (hloop : c.loop.isStarting = false) (code : UInt32) (details : String) :
    Comes side c (c.violate p code details).1 := by
  have hleave : Comes side c (leave c).1 := comes_leave hloop
  exact comes_say hloop hleave

theorem comes_follow (hloop : c.loop.isStarting = false) (r : Reaction) :
    Comes side c (c.follow p r).1 := by
  cases r with
  | readOn | notify => exact .refl
  | greetBack => exact comes_say hloop (comes_leave hloop)
  | violation code details => exact comes_violate hloop code details
  | leave => exact comes_leave hloop
  | serve n d => exact comes_of_eq rfl rfl rfl rfl rfl rfl
  | turnDown n fault =>
    have hbuilt : Comes side c { c with surroundings :=
      (finalAnswer p.stack n (.error fault) c.surroundings).2 } :=
        comes_of_eq rfl rfl rfl rfl rfl rfl
    simp only [follow]
    split
    · exact hbuilt.trans (comes_say (by exact hloop) .refl)
    · exact hbuilt
  | complete n reply => exact comes_resolve n reply

/-! ## Steps -/

theorem comes_start : Comes p.side c (c.start p).1 := by
  have h := start_started p c
  generalize c.start p = q at h ⊢
  cases h with
  | unchanged => exact .refl
  | refused hside hloop hshut => exact Move.comes (.refused hside hloop hshut)
  | up hside hloop hopen => exact Move.comes (.served hside hloop hopen)
  | failed hside hloop => exact Move.comes (.dialedInVain hside hloop)
  | greeting hside hloop hopen _ hq =>
    refine (Move.comes (.dialed hside hloop hopen)).trans ?_
    obtain ⟨-, rfl⟩ := enqueue_ok hq
    refine Move.comes (.work rfl rfl rfl .same Or.inl fun x hx => ?_)
    rcases List.mem_append.mp hx with hx | hx
    · exact Or.inl hx
    · rw [List.mem_singleton.mp hx]
      exact Or.inr (Or.inl rfl)

theorem comes_call (caller : Nat) (expects : Bool) (x : CallContext) (m : Moment) (method : String)
    (payload : Bytes) : Comes side c (c.call caller expects x m method payload).1 := by
  unfold call
  split
  · exact .refl
  · cases hgate : gate c.phase expects x m with
    | some cause => exact .refl
    | none =>
      have hup : c.phase = .connected := by
        cases hphase : c.phase with
        | connected => rfl
        | created | connecting | disconnecting | disconnected =>
          rw [hphase] at hgate
          cases hgate
      exact Move.comes (.work rfl rfl rfl .same (fun _ => Or.inr hup) fun _ => Or.inl)

theorem comes_number {caller : Nat} {k : Call} (hk : c.call? caller = some k)
    (hfresh : c.table.enter.1 ∉ c.table.waiting) : Comes side c (c.number caller k).1 := by
  have hsome : c.calls ≠ [] := fun hnone => by simp [call?, hnone] at hk
  unfold number
  cases k.expectsAnswer with
  | false =>
    have hallocated : Comes side c { c with table := c.table.allocate.2 } :=
      Move.comes (.work rfl rfl rfl .allocated Or.inl fun _ => Or.inl)
    exact hallocated.trans (comes_setStage caller _)
  | true =>
    cases hclosed : c.table.closed with
    | true =>
      simp only [CallTable.register, hclosed, if_true]
      exact comes_forget caller
    | false =>
      simp only [CallTable.register, hclosed, if_true, Bool.false_eq_true, if_false]
      exact (Move.comes (.numbered hsome hclosed hfresh)).trans (comes_setStage caller _)

theorem comes_frame (caller : Nat) (k : Call) (n : UInt64) :
    Comes side c (c.frame p caller k n).1 := by
  simp only [frame]
  generalize messageFrame p.stack n (if k.expectsAnswer then .request else .event)
    k.context.baggage (some k.method) k.payload c.surroundings = built
  have hbuilt : Comes side c { c with surroundings := built.2 } :=
    comes_of_eq rfl rfl rfl rfl rfl rfl
  cases built.1 with
  | error e => exact hbuilt.trans (comes_forget caller)
  | ok f =>
    dsimp only
    cases hq : Connection.enqueue { c with surroundings := built.2 } p (.call caller n) f with
    | error e => exact hbuilt.trans (comes_forget caller)
    | ok after => exact (hbuilt.trans (comes_enqueue hq (Or.inl rfl))).trans (comes_setStage _ _)

theorem comes_advance (caller : Nat) (hfresh : c.table.enter.1 ∉ c.table.waiting) :
    Comes side c (c.advance p caller).1 := by
  unfold advance
  cases hk : c.call? caller with
  | none => exact .refl
  | some k =>
    dsimp only
    cases k.stage with
    | admitted => exact comes_number hk hfresh
    | numbered n => exact comes_frame caller k n
    | writing n => exact .refl
    | awaiting n =>
      dsimp only
      cases k.inbox with
      | none => exact .refl
      | some reply => cases reply <;> exact comes_forget caller

theorem GivenUp.comes {caller : Nat} {q : Progress σ} (h : c.GivenUp caller q) :
    Comes side c q.1 := by
  cases h with
  | unchanged => exact .refl
  | finished => exact comes_forget caller

theorem comes_write (hnotices : ∀ x ∈ c.writers, x.2.purpose.isOfLoop = true →
    c.loop.isStarting = false) (w : Nat) : Comes side c (c.write p w).1 := by
  unfold write
  cases hw : c.writers.lookup w with
  | none => exact .refl
  | some v =>
    have hpurpose := hnotices (w, v) (mem_of_lookup hw)
    dsimp only
    split
    · exact (comes_dropWriter w).trans (comes_resume _ hpurpose)
    · exact (comes_dropWriter w).trans (comes_resume _ hpurpose)

theorem comes_failWrite (hnotices : ∀ x ∈ c.writers, x.2.purpose.isOfLoop = true →
    c.loop.isStarting = false) (w : Nat) (fault : IoFault) :
    Comes side c (c.failWrite p w fault).1 := by
  unfold failWrite
  cases hw : c.writers.lookup w with
  | none => exact .refl
  | some v =>
    refine ((comes_dropWriter w).trans comes_teardown).trans (comes_resume _ ?_)
    rw [teardown_loop]
    exact hnotices (w, v) (mem_of_lookup hw)

theorem comes_greet (hloop : c.loop = .greeted) (incoming : Incoming) :
    Comes side c (c.greet p incoming).1 := by
  have hfailed : ∀ e, Comes side c (c.failHandshake e).1 := fun _ =>
    Move.comes (.failed (Or.inr hloop))
  cases incoming with
  | frame f =>
    simp only [greet]
    cases expectGreeting f with
    | ok _ => exact Move.comes (.established hloop)
    | error e => exact hfailed e
  | malformed e => exact hfailed _
  | broken fault => exact hfailed _
  | ended => exact hfailed _

theorem comes_arrive (incoming : Incoming) : Comes side c (c.arrive p incoming).1 := by
  unfold arrive
  cases hloop : c.loop with
  | greeted => exact comes_greet hloop incoming
  | reading =>
    have hrunning : c.loop.isStarting = false := by rw [hloop]; rfl
    cases incoming with
    | frame f =>
      have hreact : Comes side c { c with surroundings :=
        (react p.side p.stack f c.surroundings).2 } := comes_of_eq rfl rfl rfl rfl rfl rfl
      exact hreact.trans (comes_follow (by exact hrunning) _)
    | malformed e => exact comes_violate hrunning _ _
    | broken fault => exact comes_leave hrunning
    | ended => exact comes_leave hrunning
  | unstarted | greeting | paused | «over» => exact .refl

theorem comes_answer (handler : Nat) (result : Except Fault Bytes) :
    Comes side c (c.answer p handler result).1 := by
  have h := answer_answered p c handler result
  generalize c.answer p handler result = q at h ⊢
  cases h with
  | unchanged => exact .refl
  | lost s => exact comes_of_eq rfl rfl rfl rfl rfl rfl
  | @queued n s f after hn hf hq =>
    have hbuilt : Comes side c { c with
        serving := c.serving.filter (·.1 ≠ handler), surroundings := s } :=
      comes_of_eq rfl rfl rfl rfl rfl rfl
    exact hbuilt.trans (comes_enqueue hq (Or.inl rfl))

theorem comes_timeOutHandshake (waited : Span) : Comes side c (c.timeOutHandshake waited).1 := by
  have h := timeOutHandshake_timedOut c waited
  generalize c.timeOutHandshake waited = q at h ⊢
  cases h with
  | unchanged => exact .refl
  | failed hloop => exact Move.comes (.failed hloop)

theorem comes_stop : Comes side c (c.stop p).1 := by
  have h := stop_stopped p c
  generalize c.stop p = q at h ⊢
  cases h with
  | tornDown => exact comes_teardown
  | farewell _ hq => exact comes_enqueue hq (Or.inl rfl)

/-- Every step is made of moves, if the frames of the receive loop are written while it runs and the
number that would be given out is fresh. -/
theorem comes_step (hnotices : ∀ x ∈ c.writers, x.2.purpose.isOfLoop = true →
    c.loop.isStarting = false) (hfresh : c.table.enter.1 ∉ c.table.waiting) (e : Event) :
    Comes p.side c (c.step p e).1 := by
  cases e with
  | start => exact comes_start
  | call caller expects context moment method payload => exact comes_call ..
  | advance caller => exact comes_advance caller hfresh
  | expire caller => exact (expire_givenUp c caller).comes
  | cancel caller => exact (cancel_givenUp c caller).comes
  | abandon caller => exact comes_forget caller
  | write w => exact comes_write hnotices w
  | failWrite w fault => exact comes_failWrite hnotices w fault
  | arrive incoming => exact comes_arrive incoming
  | answer handler result => exact comes_answer handler result
  | handshakeTimeout waited => exact comes_timeOutHandshake waited
  | stop => exact comes_stop

/-! ## What hangs together -/

/-- How the phase, the stream, the table and the receive loop hang together. -/
structure Coherent (c : Connection σ) : Prop where
  gone : c.phase.isOver → c.phase = .disconnected ∧ c.shut = true
  closed : c.table.closed = c.shut
  unstarted : c.loop = .unstarted → c.phase = if c.shut then .disconnected else .created
  called : c.calls ≠ [] → c.phase = .connected ∨ c.shut = true
  notices : ∀ x ∈ c.writers, x.2.purpose.isOfLoop = true → c.loop.isStarting = false

theorem coherent_new (s : σ) : (Connection.new p s).Coherent where
  gone h := by cases h
  closed := rfl
  unstarted _ := rfl
  called h := absurd rfl h
  notices _ hx := absurd hx List.not_mem_nil

theorem coherent_teardown (hgone : c.phase.isOver → c.phase = .disconnected ∧ c.shut = true)
    (hclosed : c.table.closed = c.shut)
    (hnotices : ∀ x ∈ c.writers, x.2.purpose.isOfLoop = true → c.loop.isStarting = false) :
    c.teardown.1.Coherent := by
  unfold teardown
  by_cases h : c.phase.isOver = true
  · rw [if_pos h]
    obtain ⟨hphase, hshut⟩ := hgone h
    exact ⟨hgone, hclosed, fun _ => by simp [hphase, hshut], fun _ => Or.inr hshut, hnotices⟩
  · rw [if_neg h]
    exact ⟨fun _ => ⟨rfl, rfl⟩, rfl, fun _ => rfl, fun _ => Or.inr rfl, hnotices⟩

theorem Coherent.move (h : c.Coherent) (hmove : Move side c c') : c'.Coherent := by
  cases hmove with
  | work hphase hshut hloop htable hcalls hwriters =>
    refine ⟨?_, ?_, ?_, ?_, ?_⟩
    · rw [hphase, hshut]
      exact h.gone
    · rw [htable.closed_eq, hshut]
      exact h.closed
    · rw [hloop, hphase, hshut]
      exact h.unstarted
    · rw [hphase, hshut]
      exact fun hsome => (hcalls hsome).elim h.called Or.inl
    · rw [hloop]
      intro x hx hpurpose
      rcases hwriters x hx with hold | hnot | hrunning
      · exact h.notices x hold hpurpose
      · rw [hnot] at hpurpose
        cases hpurpose
      · exact hrunning
  | numbered => exact ⟨h.gone, h.closed, h.unstarted, h.called, h.notices⟩
  | @loops loop hfrom hto =>
    refine ⟨h.gone, h.closed, ?_, h.called, fun _ _ _ => hto⟩
    rintro rfl
    cases hto
  | left => exact coherent_teardown h.gone h.closed fun _ _ _ => rfl
  | tornDown => exact coherent_teardown h.gone h.closed h.notices
  | refused => exact ⟨h.gone, h.closed, nofun, h.called, fun _ _ _ => rfl⟩
  | served => exact ⟨nofun, h.closed, nofun, fun _ => Or.inl rfl, fun _ _ _ => rfl⟩
  | dialed hside hloop hopen =>
    refine ⟨nofun, h.closed, nofun, fun hsome => ?_, fun x hx hpurpose => ?_⟩
    · have hphase := h.unstarted hloop
      rw [hopen] at hphase
      rcases h.called hsome with hup | hshut
      · cases hup.symm.trans hphase
      · rw [hopen] at hshut
        cases hshut
    · have hrunning := h.notices x hx hpurpose
      rw [hloop] at hrunning
      cases hrunning
  | dialedInVain => exact coherent_teardown nofun h.closed fun _ _ _ => rfl
  | greeted hloop =>
    refine ⟨h.gone, h.closed, nofun, h.called, fun x hx hpurpose => ?_⟩
    have hrunning := h.notices x hx hpurpose
    rw [hloop] at hrunning
    cases hrunning
  | established => exact ⟨nofun, h.closed, nofun, fun _ => Or.inl rfl, fun _ _ _ => rfl⟩
  | failed => exact coherent_teardown h.gone h.closed fun _ _ _ => rfl

theorem Coherent.comes (h : c.Coherent) (hcomes : Comes side c c') : c'.Coherent := by
  induction hcomes with
  | refl => exact h
  | tail _ hmove ih => exact ih.move hmove

/-! ## Runs -/

/-- Until the counter comes round, the number that would be given out is not on the table. -/
theorem enter_not_mem_run (s : σ) (es : List Event)
    (hmax : (drawn p s es).length < 9223372036854775807) :
    (run p (.new p s) es).1.table.enter.1 ∉ (run p (.new p s) es).1.table.waiting := by
  have horder := inOrder_run s es hmax
  rw [horder.number_eq (Or.inl rfl)]
  exact fun hmem => horder.next_not_mem (horder.waiting _ hmem)

theorem coherent_run (s : σ) (es : List Event)
    (hmax : (drawn p s es).length < 9223372036854775807) :
    (run p (.new p s) es).1.Coherent := by
  refine run_history (p := p) (c := .new p s)
    (I := fun es c => (drawn p s es).length < 9223372036854775807 → c.Coherent)
    (fun _ => coherent_new s) (fun front e ih hlen => ?_) es hmax
  rw [drawn_concat, List.length_append] at hlen
  have hfront := Nat.lt_of_le_of_lt (Nat.le_add_right _ _) hlen
  have hcoherent := ih hfront
  exact hcoherent.comes (comes_step hcoherent.notices (enter_not_mem_run s front hfront) e)

/-- What can keep up with the moves of each step goes along with a run. -/
theorem exists_along {β : Type} {I : List Event → List β → Prop} (s : σ) (hnew : I [] [])
    (hstep : ∀ front e gs, (run p (.new p s) front).1.Coherent →
      Comes p.side (run p (.new p s) front).1 (run p (.new p s) (front ++ [e])).1 →
        I front gs → ∃ fs, I (front ++ [e]) (gs ++ fs))
    (es : List Event) (hmax : (drawn p s es).length < 9223372036854775807) :
    ∃ gs : List (List β), gs.length = es.length ∧
      ∀ k ≤ es.length, I (es.take k) (gs.take k).flatten := by
  induction es using List.reverseRecOn with
  | nil =>
    refine ⟨[], rfl, fun k _ => ?_⟩
    rw [List.take_nil, List.take_nil]
    exact hnew
  | append_singleton es e ih =>
    rw [drawn_concat, List.length_append] at hmax
    have hfront := Nat.lt_of_le_of_lt (Nat.le_add_right _ _) hmax
    obtain ⟨gs, hlength, halong⟩ := ih hfront
    have hlast := halong es.length (Nat.le_refl _)
    rw [List.take_length, ← hlength, List.take_length] at hlast
    have hcoherent := coherent_run s es hfront
    have hcomes := comes_step (p := p) hcoherent.notices (enter_not_mem_run s es hfront) e
    rw [← run_concat] at hcomes
    obtain ⟨fs, hnext⟩ := hstep es e gs.flatten hcoherent hcomes hlast
    refine ⟨gs ++ [fs], by simp [hlength], fun k hk => ?_⟩
    rcases Nat.lt_or_ge k (es.length + 1) with hearlier | hwhole
    · rw [List.take_append_of_le_length (by omega), List.take_append_of_le_length (by omega)]
      exact halong k (by omega)
    · have hall : (gs ++ [fs]).length ≤ k := by simpa [hlength] using hwhole
      rw [List.take_of_length_le hall, List.take_of_length_le (by simpa using hwhole),
        List.flatten_append, List.flatten_singleton]
      exact hnext

end Connection

end Rpc
