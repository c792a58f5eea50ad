import Rpc.Proofs.Connection.Effort

/-! # Coming to rest

An end whose peer has closed comes to rest once nothing is left that it does by itself. From
everywhere it can be brought to rest, and at rest its receive loop is over and no call waits: those
that wait for the stream have a writer, and those that wait for an answer are told that there is
none.
-/
namespace Rpc

open Message

namespace Connection

variable {σ : Type} {p : Profile σ} {c : Connection σ}

/-! ## Calls that wait for the stream -/

/-- A call that waits for the stream has a writer. -/
def Queued (c : Connection σ) : Prop := ∀ caller k n, c.call? caller = some k →
  k.stage = .writing n → ∃ w f, (w, Writer.mk (.call caller n) f) ∈ c.writers

/-- A call comes to wait for the stream from having its number. -/
theorem writing_step {e : Event} {caller : Nat} {k' : Call} {n : UInt64}
    (hk' : (c.step p e).1.call? caller = some k') (hs' : k'.stage = .writing n) :
    (∃ k, c.call? caller = some k ∧ k.stage = .writing n) ∨
      e = .advance caller ∧ ∃ k, c.call? caller = some k ∧ k.stage = .numbered n := by
  obtain ⟨calls, ended, hmoves, ⟨g, hg, hreceives⟩, -⟩ := calls_step (p := p) (c := c) e
  rw [call?, hg, lookup_map] at hk'
  obtain ⟨k, hk, rfl⟩ := Option.map_eq_some_iff.mp hk'
  rw [(hreceives k).stage] at hs'
  have hmoved : ∀ {caller' : Nat} {k₀ : Call} {stage : Stage},
      (c.setStage caller' stage).call? caller = some k → c.call? caller' = some k₀ →
      (∃ k, c.call? caller = some k ∧ k.stage = .writing n) ∨
        caller = caller' ∧ stage = .writing n := by
    intro caller' k₀ stage hk hk₀
    rw [call?_setStage] at hk
    obtain ⟨k₁, hk₁, rfl⟩ := Option.map_eq_some_iff.mp hk
    by_cases hc : caller = caller'
    · rw [if_pos hc] at hs'
      exact Or.inr ⟨hc, hs'⟩
    · rw [if_neg hc] at hs'
      exact Or.inl ⟨k₁, hk₁, hs'⟩
  have hrest : ∀ {caller' : Nat}, (c.calls.filter (·.1 ≠ caller')).lookup caller = some k →
      ∃ k, c.call? caller = some k ∧ k.stage = .writing n := by
    intro caller' hk
    have hc : caller ≠ caller' := by
      rintro rfl
      rw [lookup_filter_self] at hk
      cases hk
    rw [lookup_filter_ne hc] at hk
    exact ⟨k, hk, hs'⟩
  cases hmoves with
  | stay he => exact Or.inl ⟨k, hk, hs'⟩
  | refused hnew hc => exact Or.inl ⟨k, hk, hs'⟩
  | joined hnew =>
    rw [List.lookup_append] at hk
    cases hold : c.calls.lookup caller with
    | some k₀ =>
      rw [hold, Option.some_or] at hk
      exact Or.inl ⟨k, hold.trans hk, hs'⟩
    | none =>
      rw [hold, Option.none_or] at hk
      have hjoined := mem_of_lookup hk
      rw [List.mem_singleton] at hjoined
      cases hjoined
      cases hs'
  | numbered hk₀ hs hdraws =>
    rcases hmoved hk hk₀ with hold | ⟨-, hstage⟩
    · exact Or.inl hold
    · cases hstage
  | queued hk₀ hs hf =>
    rcases hmoved hk hk₀ with hold | ⟨rfl, hstage⟩
    · exact Or.inl hold
    · cases hstage
      exact Or.inr ⟨rfl, _, hk₀, hs⟩
  | sent hw hshut hk₀ hs hx =>
    rcases hmoved hk hk₀ with hold | ⟨-, hstage⟩
    · exact Or.inl hold
    · cases hstage
  | ended hk₀ he => exact Or.inl (hrest hk)
  | abandoned => exact Or.inl (hrest hk)

theorem resume_call {caller : Nat} {n : UInt64} {result : Except TransportError Unit} {k' : Call}
    (hk' : (c.resume p result (.call caller n)).1.call? caller = some k') :
    k'.stage ≠ .writing n := by
  simp only [resume] at hk'
  split at hk'
  · rename_i hk
    rw [hk] at hk'
    cases hk'
  · rename_i k hk
    split at hk'
    · split at hk'
      · simp only [finish, call?_forget] at hk'
        cases hk'
      · split at hk'
        · rw [call?_setStage, hk, Option.map_some, if_pos rfl] at hk'
          cases hk'
          simp
        · simp only [finish, call?_forget] at hk'
          cases hk'
    · rename_i hs
      rw [hk] at hk'
      cases hk'
      exact hs

theorem frame_queued {caller : Nat} {k k' : Call} {m n : UInt64}
    (hk' : (c.frame p caller k m).1.call? caller = some k') (hs' : k'.stage = .writing n) :
    ∃ w f, (w, Writer.mk (.call caller n) f) ∈ (c.frame p caller k m).1.writers := by
  simp only [frame] at hk' ⊢
  split at hk'
  · simp only [finish, call?_forget] at hk'
    cases hk'
  · rename_i f hf
    split at hk'
    · simp only [finish, call?_forget] at hk'
      cases hk'
    · rename_i hq
      rw [call?_setStage] at hk'
      obtain ⟨k₀, -, rfl⟩ := Option.map_eq_some_iff.mp hk'
      rw [if_pos rfl] at hs'
      cases hs'
      simp only [setStage_writers]
      obtain ⟨-, rfl⟩ := enqueue_ok hq
      exact ⟨_, f, List.mem_append_right _ (List.mem_singleton_self _)⟩

theorem queued_step {e : Event} (hw : KeysBelow c.writers c.nextWriter) (h : c.Queued) :
    (c.step p e).1.Queued := by
  intro caller k' n hk' hs'
  rcases writing_step hk' hs' with ⟨k, hk, hs⟩ | ⟨rfl, k, hk, hs⟩
  · obtain ⟨w, f, hmem⟩ := h caller k n hk hs
    have hlookup := lookup_of_mem hw.nodup hmem
    -- its writer is not the one that is done
    have hwaits : (w, Writer.mk (.call caller n) f) ∈ c.waitingWriters e := by
      cases hdone : doneWriter? e with
      | none => rwa [waitingWriters, hdone]
      | some w' =>
        rw [waitingWriters, hdone]
        refine List.mem_filter.mpr ⟨hmem, decide_eq_true ?_⟩
        rintro rfl
        cases e with
        | write w =>
          cases hdone
          simp only [step, write, hlookup] at hk'
          split at hk'
          · exact resume_call hk' hs'
          · exact resume_call hk' hs'
        | failWrite w fault =>
          cases hdone
          simp only [step, failWrite, hlookup] at hk'
          exact resume_call hk' hs'
        | _ => cases hdone
    rcases writers_step (p := p) (c := c) e with ⟨hwriters, -⟩ | ⟨_, _, henlists, -, hwriters, -⟩
    · exact ⟨w, f, by rw [hwriters]; exact hwaits⟩
    · exact ⟨w, f, by rw [hwriters]; exact List.mem_append_left _ hmem⟩
  · simp only [step, advance, hk, hs] at hk' ⊢
    exact frame_queued hk' hs'

theorem queued_run (s : σ) (es : List Event) : (run p (.new p s) es).1.Queued := by
  refine run_history (c := .new p s) (I := fun _ c => c.Queued) (fun _ _ _ hk => ?_)
    (fun front e ih => queued_step (writersBelow_run s front) ih) es
  cases hk

end Connection

namespace Receiver

open Connection

variable {σ : Type} {p : Profile σ} {r : Receiver σ}

/-! ## Rest -/

/-- The peer has closed its end, and nothing that this end does by itself changes anything. -/
def Rests (p : Profile σ) (r : Receiver σ) : Prop :=
  r.intake.ended = true ∧ ∀ e : Event, e.isWork = true → (r.step p e).1 = r

/-- A step that an end takes by itself lowers the effort, unless it changes nothing. -/
theorem work_effort (hc : (r.connection.calls.map Prod.fst).Nodup) {e : Event}
    (he : e.isWork = true) : (r.step p e).1 = r ∨ (r.step p e).1.effort < r.effort := by
  cases e with
  | feed chunk => cases he
  | finish => cases he
  | take =>
    rcases take_cases (p := p) (r := r) with ⟨-, hstep⟩ | ⟨piece, rest, htakes⟩
    · left
      rw [hstep]
    · exact Or.inr (take_effort htakes.ready htakes.next)
  | own x =>
    cases x with
    | advance caller =>
      rcases advance_effort (p := p) hc caller with ⟨hsame, -⟩ | hlt
      · left
        simp only [step, Connection.step, hsame]
      · exact Or.inr (Nat.add_lt_add_left hlt _)
    | write w =>
      cases hv : r.connection.writers.lookup w with
      | none =>
        left
        simp only [step, Connection.step, write, hv]
      | some v => exact Or.inr (Nat.add_lt_add_left (write_effort hc hv) _)
    | _ => cases he

theorem ended_step {e : Event} (h : r.intake.ended = true) :
    (r.step p e).1.intake.ended = true := by
  cases e with
  | feed chunk => simp only [step, Intake.feed, h, if_true]
  | finish => rfl
  | take =>
    rcases take_cases (p := p) (r := r) with ⟨-, hstep⟩ | ⟨piece, rest, htakes⟩
    · rw [hstep]
      exact h
    · rw [htakes.step]
      exact (Intake.next?_length htakes.next).1.trans h
  | own x => cases x <;> exact h

theorem callers_step (hc : (r.connection.calls.map Prod.fst).Nodup) (e : Event) :
    ((r.step p e).1.connection.calls.map Prod.fst).Nodup :=
  step_preserves (I := fun c => (c.calls.map Prod.fst).Nodup)
    (fun _ _ => Connection.callers_step) hc e

/-- Whoever does what is left to be done comes to rest. -/
theorem comes_to_rest (hc : (r.connection.calls.map Prod.fst).Nodup)
    (hended : r.intake.ended = true) :
    ∃ work, (∀ e ∈ work, e.isWork = true) ∧ Rests p (r.run p work).1 := by
  induction hn : r.effort using Nat.strongRecOn generalizing r with
  | ind n ih =>
    by_cases hrest : ∀ e : Event, e.isWork = true → (r.step p e).1 = r
    · exact ⟨[], fun e he => absurd he List.not_mem_nil, hended, hrest⟩
    · simp only [not_forall] at hrest
      obtain ⟨e, he, hmoves⟩ := hrest
      have hlt := (work_effort hc he).resolve_left hmoves
      obtain ⟨work, hwork, hrests⟩ :=
        ih _ (hn ▸ hlt) (callers_step (p := p) hc e) (ended_step hended) rfl
      refine ⟨e :: work, fun e' he' => ?_, hrests⟩
      rcases List.mem_cons.mp he' with rfl | he'
      · exact he
      · exact hwork e' he'

theorem rests_of_idle (hended : r.intake.ended = true) (hloop : r.connection.loop = .over)
    (hcalls : r.connection.calls = []) (hwriters : r.connection.writers = []) : Rests p r := by
  refine ⟨hended, fun e he => ?_⟩
  cases e with
  | feed chunk => cases he
  | finish => cases he
  | take =>
    simp only [step, take, hloop, Loop.isReady]
    rfl
  | own x =>
    cases x with
    | advance caller => simp only [step, Connection.step, advance, call?, hcalls, List.lookup_nil]
    | write w => simp only [step, Connection.step, write, hwriters, List.lookup_nil]
    | _ => cases he

namespace Rests

variable (h : Rests p r)

include h

theorem not_effort_lt {e : Event} (he : e.isWork = true) :
    ¬ (r.step p e).1.effort < r.effort := by
  rw [h.2 e he]
  exact Nat.lt_irrefl _

theorem lookup_writers (hc : (r.connection.calls.map Prod.fst).Nodup) (w : Nat) :
    r.connection.writers.lookup w = none := by
  cases hv : r.connection.writers.lookup w with
  | none => rfl
  | some v =>
    exact absurd (Nat.add_lt_add_left (write_effort hc hv) _)
      (h.not_effort_lt (e := .own (.write w)) rfl)

theorem waits (hc : (r.connection.calls.map Prod.fst).Nodup) (caller : Nat) :
    Waits r.connection (.advance caller) := by
  rcases advance_effort (p := p) hc caller with ⟨-, hwaits⟩ | hlt
  · exact hwaits
  · exact absurd (Nat.add_lt_add_left hlt _)
      (h.not_effort_lt (e := .own (.advance caller)) rfl)

theorem mode_eq {mode : Mode} (hmode : r.connection.Stands mode)
    (hc : (r.connection.calls.map Prod.fst).Nodup)
    (hw : KeysBelow r.connection.writers r.connection.nextWriter) : mode = .ended := by
  have hnone : ∀ {w v}, r.connection.loopWriters = [(w, v)] → False := by
    intro w v hone
    have hmem : (w, v) ∈ r.connection.loopWriters := by rw [hone]; exact List.mem_singleton_self _
    have hlookup := lookup_of_mem hw.nodup (List.mem_filter.mp hmem).1
    rw [h.lookup_writers hc w] at hlookup
    cases hlookup
  cases mode with
  | reading =>
    have hready : r.connection.loop.isReady = true := by
      rw [hmode.2.2.1]
      rfl
    obtain ⟨piece, intake, hnext⟩ := Intake.exists_next p.limit h.1
    exact absurd (take_effort hready hnext) (h.not_effort_lt (e := .take) rfl)
  | pausing =>
    obtain ⟨-, -, -, w, v, hone, -⟩ := hmode
    exact (hnone hone).elim
  | violating code details =>
    obtain ⟨-, -, -, w, f, hone, -⟩ := hmode
    exact (hnone hone).elim
  | ended => rfl

theorem no_call (hmode : r.connection.Stands .ended) (ht : r.connection.Tabled)
    (hq : r.connection.Queued) (hc : (r.connection.calls.map Prod.fst).Nodup)
    (hw : KeysBelow r.connection.writers r.connection.nextWriter) {caller : Nat} {k : Call}
    {n : UInt64} (hk : r.connection.call? caller = some k) : k.number? ≠ some n := by
  intro hn
  rcases h.waits hc caller caller k rfl hk with ⟨m, hs⟩ | ⟨m, hs, hi⟩
  · obtain ⟨w, f, hmem⟩ := hq caller k m hk hs
    have hlookup := lookup_of_mem hw.nodup hmem
    rw [h.lookup_writers hc w] at hlookup
    cases hlookup
  · have hmem := ht.waiting caller k n hk hn hi
    rw [ht.empty (ht.closed hmode.2.1)] at hmem
    cases hmem

end Rests

end Receiver

end Rpc
