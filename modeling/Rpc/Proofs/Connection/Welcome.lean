import Mathlib.Data.List.Induction
import Rpc.Proofs.Connection.Greeting

/-! # A client is up once its server has heard it

Only a greeting brings a client up, and only the receive loop of a server writes one, when something
has arrived. So the server has taken something in before the start of its client ends well.
-/
namespace Rpc

open Message

namespace Connection

variable {σ : Type} {p : Profile σ} {c : Connection σ}

/-! ## What tells that a client is up -/

theorem teardown_untold : .started (.ok ()) ∉ c.teardown.2 := by
  unfold teardown
  split <;> simp

theorem failHandshake_untold (e : TransportError) : .started (.ok ()) ∉ (c.failHandshake e).2 := by
  simp [failHandshake, leave, teardown_untold]

theorem resume_untold (result : Except TransportError Unit) (purpose : Purpose) :
    .started (.ok ()) ∉ (c.resume p result purpose).2 := by
  have h := resume_resumed p c result purpose
  generalize c.resume p result purpose = q at h ⊢
  cases h with
  | unchanged | awaiting | greeted | reading => exact List.not_mem_nil
  | finished caller ending => simp [finish]
  | failed _ e => exact failHandshake_untold e
  | left | tornDown => exact teardown_untold

theorem say_untold {purpose : Purpose} {f : Except CodecError Frame}
    {otherwise : Connection σ → Progress σ} (h : .started (.ok ()) ∉ (otherwise c).2) :
    .started (.ok ()) ∉ (c.say p purpose f otherwise).2 := by
  have hsaid := say_said p c purpose f otherwise
  generalize c.say p purpose f otherwise = q at hsaid ⊢
  cases hsaid with
  | otherwise => exact h
  | paused => exact List.not_mem_nil

theorem follow_untold (r : Reaction) : .started (.ok ()) ∉ (c.follow p r).2 := by
  cases r with
  | greetBack => exact say_untold teardown_untold
  | violation code details =>
    simp only [follow, violate, List.mem_cons, reduceCtorEq, false_or]
    exact say_untold teardown_untold
  | leave => exact teardown_untold
  | turnDown n fault =>
    simp only [follow]
    split
    · exact say_untold (by simp)
    · simp
  | readOn | serve | notify | complete => simp [follow]

theorem start_untold : .started (.ok ()) ∉ (c.start p).2 := by
  have h := start_started p c
  generalize c.start p = q at h ⊢
  cases h with
  | unchanged | greeting => exact List.not_mem_nil
  | refused => simp
  | up => simp [establish]
  | failed _ _ e => exact failHandshake_untold e

theorem write_untold (w : Nat) : .started (.ok ()) ∉ (c.write p w).2 := by
  unfold write
  cases c.writers.lookup w with
  | none => exact List.not_mem_nil
  | some v =>
    dsimp only
    split
    · exact resume_untold _ _
    · simp only [List.mem_cons, reduceCtorEq, false_or]
      exact resume_untold _ _

theorem failWrite_untold (w : Nat) (fault : IoFault) :
    .started (.ok ()) ∉ (c.failWrite p w fault).2 := by
  unfold failWrite
  cases c.writers.lookup w with
  | none => exact List.not_mem_nil
  | some v =>
    intro h
    rcases List.mem_append.mp h with h | h
    · exact teardown_untold h
    · exact resume_untold _ _ h

theorem timeOutHandshake_untold (waited : Span) :
    .started (.ok ()) ∉ (c.timeOutHandshake waited).2 := by
  have h := timeOutHandshake_timedOut c waited
  generalize c.timeOutHandshake waited = q at h ⊢
  cases h with
  | unchanged => exact List.not_mem_nil
  | failed _ e => exact failHandshake_untold e

theorem stop_untold : .started (.ok ()) ∉ (c.stop p).2 := by
  have h := stop_stopped p c
  generalize c.stop p = q at h ⊢
  cases h with
  | tornDown => exact teardown_untold
  | farewell => exact List.not_mem_nil

theorem greeting_of_arrive {incoming : Incoming}
    (h : .started (.ok ()) ∈ (c.arrive p incoming).2) :
    ∃ f, incoming = .frame f ∧ expectGreeting f = .ok () := by
  unfold arrive at h
  cases hloop : c.loop with
  | greeted =>
    simp only [hloop] at h
    cases incoming with
    | frame f =>
      refine ⟨f, rfl, ?_⟩
      simp only [greet, List.mem_cons, reduceCtorEq, false_or] at h
      cases hf : expectGreeting f with
      | ok _ => rfl
      | error e =>
        rw [hf] at h
        exact absurd h (failHandshake_untold e)
    | malformed | broken | ended => exact absurd h (failHandshake_untold _)
  | reading =>
    simp only [hloop] at h
    cases incoming with
    | frame f =>
      simp only [accept, List.mem_cons, reduceCtorEq, false_or] at h
      exact absurd h (follow_untold _)
    | malformed e =>
      simp only [violate, List.mem_cons, reduceCtorEq, false_or] at h
      exact absurd h (say_untold teardown_untold)
    | broken | ended => exact absurd h teardown_untold
  | unstarted | greeting | paused | «over» =>
    simp only [hloop] at h
    exact absurd h List.not_mem_nil

/-- A client is up as its greeting comes back. -/
theorem greeting_of_started {e : Event} (h : .started (.ok ()) ∈ (c.step p e).2) :
    ∃ f, e = .arrive (.frame f) ∧ expectGreeting f = .ok () := by
  by_cases hcall : e.isOfCall
  · obtain ⟨caller, ending, ho⟩ := ofCall_outputs hcall _ h
    cases ho
  cases e with
  | start => exact absurd h start_untold
  | write w => exact absurd h (write_untold w)
  | failWrite w fault => exact absurd h (failWrite_untold w fault)
  | arrive incoming =>
    obtain ⟨f, rfl, hf⟩ := greeting_of_arrive h
    exact ⟨f, rfl, hf⟩
  | handshakeTimeout waited => exact absurd h (timeOutHandshake_untold waited)
  | stop => exact absurd h stop_untold
  | call | advance | expire | cancel | abandon | answer => exact absurd rfl hcall

/-! ## Who writes a greeting -/

theorem not_greeting_of_kind {f : Frame} (h : f.kind ≠ .control) : expectGreeting f ≠ .ok () := by
  rw [expectGreeting, if_neg h]
  exact fun heq => nomatch heq

theorem not_greeting_close {f : Frame} (h : noticeFrame .close = .ok f) :
    expectGreeting f ≠ .ok () := by
  cases h
  exact fun heq => nomatch heq

theorem ne_append_singleton {α : Type} {l : List α} {x : α} : l ≠ l ++ [x] := by simp

theorem start_writers_eq (hside : p.side = .server) : (c.start p).1.writers = c.writers := by
  have h := start_started p c
  generalize c.start p = q at h ⊢
  cases h with
  | unchanged | refused | up => rfl
  | failed hclient | greeting hclient => cases hside.symm.trans hclient

theorem timeOutHandshake_writers_eq (waited : Span) :
    (c.timeOutHandshake waited).1.writers = c.writers := by
  have h := timeOutHandshake_timedOut c waited
  generalize c.timeOutHandshake waited = q at h ⊢
  cases h with
  | unchanged => rfl
  | failed => exact teardown_writers { c with loop := .over }

theorem close_of_stop {w : Nat} {purpose : Purpose} {f : Frame}
    (hw : (c.stop p).1.writers = c.writers ++ [(w, ⟨purpose, f⟩)]) :
    noticeFrame .close = .ok f := by
  have h := stop_stopped p c
  generalize c.stop p = q at h hw
  cases h with
  | tornDown => exact absurd ((teardown_writers c).symm.trans hw) ne_append_singleton
  | @farewell g after hf hq =>
    obtain ⟨-, rfl⟩ := enqueue_ok hq
    have heq := List.append_cancel_left hw
    simp only [List.cons.injEq, Prod.mk.injEq, Writer.mk.injEq, and_true] at heq
    rw [hf, heq.2.2]

/-- A notice of a server to which nothing arrives is its goodbye. -/
theorem close_of_unheard (hside : p.side = .server) {e : Event} (he : ∀ i, e ≠ .arrive i)
    (hdone : doneWriter? e = none) {w : Nat} {purpose : Purpose} {f : Frame}
    (hpurpose : purpose.isMessage = false)
    (hw : (c.step p e).1.writers = c.writers ++ [(w, ⟨purpose, f⟩)]) :
    noticeFrame .close = .ok f := by
  have hnone : (c.step p e).1.writers = c.writers → noticeFrame .close = .ok f := fun hsame =>
    absurd (hsame.symm.trans hw) ne_append_singleton
  by_cases hcall : e.isOfCall
  · have hkeeps := (ofCall_keepsLoop (p := p) (c := c) hcall).writers
    rw [loopWriters, hw, List.filter_append] at hkeeps
    exact absurd hkeeps.symm (by simp [loopWriters, hpurpose])
  cases e with
  | start => exact hnone (start_writers_eq hside)
  | write | failWrite => cases hdone
  | arrive incoming => exact absurd rfl (he incoming)
  | handshakeTimeout waited => exact hnone (timeOutHandshake_writers_eq waited)
  | stop => exact close_of_stop hw
  | call | advance | expire | cancel | abandon | answer => exact absurd rfl hcall

/-- A server to which nothing arrives writes frames of calls and handlers, and says goodbye. -/
theorem writers_of_unheard (hside : p.side = .server) {e : Event} (he : ∀ i, e ≠ .arrive i) :
    ∀ x ∈ (c.step p e).1.writers, x ∈ c.writers ∨ expectGreeting x.2.frame ≠ .ok () := by
  intro x hx
  have hwaiting : x ∈ c.waitingWriters e → x ∈ c.writers := by
    unfold waitingWriters
    split
    · exact fun h => (List.mem_filter.mp h).1
    · exact id
  rcases writers_step (p := p) (c := c) e with ⟨hw, -⟩ | ⟨purpose, f, henlists, -, hw, -⟩
  · rw [hw] at hx
    exact Or.inl (hwaiting hx)
  · have hmem := hx
    rw [hw] at hmem
    refine (List.mem_append.mp hmem).imp_right fun hnew => ?_
    rw [List.mem_singleton.mp hnew]
    cases henlists with
    | call hk hn hf =>
      refine not_greeting_of_kind ?_
      rw [(callFrame_kind hf).1, Call.kind]
      split <;> exact Kind.noConfusion
    | answer hn hf =>
      refine not_greeting_of_kind fun hkind => ?_
      have hanswer := (finalAnswer_isAnswer hf).1
      rw [hkind] at hanswer
      cases hanswer
    | turnDown => exact absurd rfl (he _)
    | notice hdone hf hp =>
      refine not_greeting_close (close_of_unheard hside he hdone ?_ hw)
      simp only [List.mem_cons, List.not_mem_nil, or_false] at hp
      rcases hp with rfl | rfl | rfl | rfl <;> rfl

/-- As long as nothing arrives, no greeting of a server waits for the stream or is on the wire. -/
theorem unheard_run (hside : p.side = .server) (s : σ) (es : List Event) :
    (∀ i, .arrive i ∉ es) →
      (∀ x ∈ (run p (.new p s) es).1.writers, expectGreeting x.2.frame ≠ .ok ()) ∧
        ∀ f ∈ trail p writes (.new p s) es, expectGreeting f ≠ .ok () := by
  refine run_history (c := .new p s) (I := fun es c => (∀ i, .arrive i ∉ es) →
    (∀ x ∈ c.writers, expectGreeting x.2.frame ≠ .ok ()) ∧
      ∀ f ∈ trail p writes (.new p s) es, expectGreeting f ≠ .ok ())
    (fun _ => ⟨fun x hx => absurd hx List.not_mem_nil, fun f hf => absurd hf List.not_mem_nil⟩)
    (fun front e ih hnone => ?_) es
  obtain ⟨hwriters, hwritten⟩ := ih fun i hi => hnone i (List.mem_append_left _ hi)
  have he : ∀ i, e ≠ .arrive i := by
    rintro i rfl
    exact hnone i (List.mem_append_right _ List.mem_cons_self)
  refine ⟨fun x hx => ?_, fun f hf => ?_⟩
  · exact (writers_of_unheard hside he x hx).elim (hwriters x) id
  · rw [trail_concat] at hf
    refine (List.mem_append.mp hf).elim (hwritten f) fun hnow => ?_
    cases e with
    | write w =>
      simp only [writes] at hnow
      split at hnow
      · cases hnow
      · obtain ⟨x, hx, rfl⟩ := Option.map_eq_some_iff.mp (Option.mem_toList.mp hnow)
        exact hwriters (w, x) (mem_of_lookup hx)
    | _ => cases hnow

end Connection

namespace Pair

open Connection

variable {σ : Type} {p : PairProfile σ}

theorem run_append (pair : Pair σ) (es fs : List Event) :
    run p pair (es ++ fs) =
      ((run p (run p pair es).1 fs).1, (run p pair es).2 ++ (run p (run p pair es).1 fs).2) := by
  induction es generalizing pair with
  | nil => rfl
  | cons e es ih =>
    simp only [List.cons_append, run, ih, List.append_assoc]

theorem eventsAt_append (side : Side) (pair : Pair σ) (es fs : List Event) :
    pair.eventsAt p side (es ++ fs) =
      pair.eventsAt p side es ++ (run p pair es).1.eventsAt p side fs := by
  induction es generalizing pair with
  | nil => rfl
  | cons e es ih =>
    simp only [List.cons_append, eventsAt, run, ih, List.append_assoc]

/-- The client is up as the greeting of its server reaches it. -/
theorem greeting_of_started {pair : Pair σ} {e : Event}
    (h : (.client, .started (.ok ())) ∈ (pair.step p e).2) :
    ∃ f rest, pair.toClient = .frame f :: rest ∧ expectGreeting f = .ok () := by
  have hclient : .started (.ok ()) ∈ outputsAt .client (pair.step p e).2 :=
    List.mem_filterMap.mpr ⟨_, h, rfl⟩
  rw [(stepsAt (p := p) pair .client e).outputs] at hclient
  cases e with
  | own side e =>
    by_cases harrive : ∃ i, e = .arrive i
    · obtain ⟨i, rfl⟩ := harrive
      cases hclient
    · have hevent : pair.eventAt p .client (.own side e) = if side = .client then [e] else [] := by
        cases e with
        | arrive i => exact absurd ⟨i, rfl⟩ harrive
        | _ => rfl
      rw [hevent] at hclient
      split at hclient
      · rw [run_singleton] at hclient
        obtain ⟨f, rfl, -⟩ := Connection.greeting_of_started hclient
        exact absurd ⟨_, rfl⟩ harrive
      · cases hclient
  | arrive side =>
    cases side with
    | server => cases hclient
    | client =>
      rcases receive_cases (p := p) pair .client with
        ⟨-, hevent⟩ | ⟨piece, rest, taken, hin, -, -, -, -, -, hevent⟩
      · rw [hevent] at hclient
        cases hclient
      · rw [hevent, run_singleton] at hclient
        obtain ⟨f, hpiece, hf⟩ := Connection.greeting_of_started hclient
        cases piece with
        | ended => cases hpiece
        | frame f' =>
          simp only [Travelling.arriving] at hpiece
          split at hpiece
          · cases hpiece
            exact ⟨f, rest, hin, hf⟩
          · cases hpiece

/-- The client is up only when something has arrived at its server. -/
theorem heard_of_started (hside : p.server.side = .server) (s : σ) (es : List Event)
    (h : (.client, .started (.ok ())) ∈ (run p (new p s) es).2) :
    ∃ i, .arrive i ∈ (new p s).eventsAt p .server es := by
  induction es using List.reverseRecOn with
  | nil => cases h
  | append_singleton es e ih =>
    rw [eventsAt_append]
    rw [run_append] at h
    rcases List.mem_append.mp h with hearlier | hnow
    · obtain ⟨i, hi⟩ := ih hearlier
      exact ⟨i, List.mem_append_left _ hi⟩
    · have hstep : (.client, .started (.ok ())) ∈ ((run p (new p s) es).1.step p e).2 := by
        simpa [run] using hnow
      obtain ⟨f, rest, hin, hf⟩ := greeting_of_started hstep
      -- What is on its way to the client was written by the server.
      have hsent : f ∈ trail p.server writes (.new p.server s)
          ((new p s).eventsAt p .server es) := by
        have hsub := takes_sublist (p := p) (new p s) .client es
        have hserver := (run_of (p := p) (new p s) .server es).2
        change outputsAt .server _ = _ at hserver
        rw [show Side.client.peer = .server from rfl, hserver, frames_eq_trail] at hsub
        refine hsub.subset (List.mem_append_right _ ?_)
        change f ∈ (run p (new p s) es).1.toClient.filterMap _
        rw [hin]
        exact List.mem_cons_self
      by_contra hnone
      refine (unheard_run (p := p.server) hside s _ fun i hi => hnone ⟨i, ?_⟩).2 f hsent hf
      exact List.mem_append_left _ hi

end Pair

end Rpc
