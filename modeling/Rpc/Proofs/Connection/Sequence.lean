import Rpc.Proofs.Connection.Greeting
import Rpc.Proofs.Connection.Stream

/-! # Frames are taken in one after the other

As long as nobody stops an end that is up and its writes succeed, its receive loop takes in the
frames before the end of the story, each once and in their order. Calls may be made, given up and
run out of time meanwhile. It does not matter whether the limit lets the notice of a violation
through: without the notice the receive loop leaves at once.
-/
namespace Rpc

open Message

namespace Connection

variable {σ : Type} {p : Profile σ} {c : Connection σ}

/-- A receive loop that cannot tell the peer of its violation leaves. -/
theorem violate_ended (h : c.Stands .reading) {code : UInt32} {details : String}
    (hnot : ¬ Admits p code details) : (c.violate p code details).1.Stands .ended := by
  obtain ⟨hphase, -, -, hwriters⟩ := h
  unfold violate say
  cases hf : noticeFrame (.violation code details) with
  | error e => exact leave_stands hphase hwriters
  | ok f =>
    cases hbytes : f.write p.limit with
    | error e =>
      simp only [enqueue, hbytes]
      exact leave_stands hphase hwriters
    | ok bytes => exact absurd ⟨f, bytes, hf, hbytes⟩ hnot

/-- A piece that ends the story with a violation is answered with its notice. -/
theorem arrive_violates (h : c.Stands .reading) {piece : Incoming} {code : UInt32}
    {details : String} (hx : piece.finale? p.side = some (.violation code details)) :
    ∃ before : Connection σ, before.Stands .reading ∧
      (c.arrive p piece).1 = (before.violate p code details).1 := by
  simp only [arrive, h.2.2.1]
  cases piece with
  | frame f =>
    have hfinale := (react_finale? p.stack f c.surroundings p.side).trans hx
    refine ⟨{ c with surroundings := (react p.side p.stack f c.surroundings).2 }, h, ?_⟩
    simp only [accept]
    cases hr : (react p.side p.stack f c.surroundings).1 with
    | violation code' details' =>
      rw [hr] at hfinale
      cases hfinale
      rfl
    | leave =>
      rw [hr] at hfinale
      cases hfinale
    | _ =>
      rw [hr] at hfinale
      cases hfinale
  | malformed e =>
    cases hx
    exact ⟨c, h, rfl⟩
  | broken fault => cases hx
  | ended => cases hx

/-- The last piece ends the reading, now or once the notice of a violation is written; behind
another one the receive loop reads on. -/
theorem arrive_reads (h : c.Stands .reading) {piece : Incoming}
    (hsize : ∀ f, piece = .frame f → f.bodySize ≤ p.limit) :
    (∃ x, piece.finale? p.side = some x ∧
      ((c.arrive p piece).1.Stands x.mode ∨ (c.arrive p piece).1.Stands .ended)) ∨
    (piece.finale? p.side = none ∧
      ((c.arrive p piece).1.Stands .reading ∨ (c.arrive p piece).1.Stands .pausing)) := by
  by_cases hadmits : ∀ code details, piece.finale? p.side = some (.violation code details) →
      Admits p code details
  · rcases arrive_stands h hsize hadmits with ⟨x, hx, hstands⟩ | hon
    · exact Or.inl ⟨x, hx, Or.inl hstands⟩
    · exact Or.inr hon
  · simp only [not_forall] at hadmits
    obtain ⟨code, details, hx, hnot⟩ := hadmits
    obtain ⟨before, hbefore, hafter⟩ := arrive_violates h hx
    exact Or.inl ⟨_, hx, Or.inr (hafter ▸ violate_ended hbefore hnot)⟩

end Connection

namespace Receiver

variable {σ : Type} {p : Profile σ} {r : Receiver σ} {mode : Mode}

/-- Whether an event is one of a receiver that nobody stops, and that neither breaks nor waits too
long. -/
def Event.isSmooth : Event → Bool
  | .own e => e.isSmooth
  | _ => true

/-- The frames that are going to be taken in make up for those that a step takes in. -/
def ReadsOn (p : Profile σ) (r : Receiver σ) (mode : Mode) (e : Event) (es : List Event) : Prop :=
  ∃ mode', (r.step p e).1.connection.Stands mode' ∧
    mode.frames p.side p.limit (r.ahead (e :: es)) =
      (r.met p [e]).map Prod.fst ++ mode'.frames p.side p.limit ((r.step p e).1.ahead es)

theorem GoesOn.readsOn {e : Event} {es : List Event} (h : GoesOn p r mode e es) :
    ReadsOn p r mode e es := by
  obtain ⟨mode', hstands, hframes, -⟩ := h
  exact ⟨mode', hstands, hframes⟩

theorem readsOn_of_call {e : Rpc.Event} (es : List Event) (h : r.connection.Stands mode)
    (he : e.isOfCall = true) : ReadsOn p r mode (.own e) es := by
  have hevent : r.eventAt p (.own e) = [e] := by
    cases e with
    | arrive incoming => cases he
    | _ => rfl
  have hstate := (step_eq (p := p) (r := r) (.own e)).1
  rw [hevent, Connection.run_singleton] at hstate
  have hintake : (r.step p (.own e)).1.intake = r.intake := by cases e <;> rfl
  have hmet : r.met p [.own e] = [] := by
    rw [met_singleton, hevent, Connection.trail_singleton]
    cases e with
    | arrive incoming => cases he
    | _ => rfl
  refine ⟨mode, ?_, ?_⟩
  · rw [hstate]
    exact h.keep (Connection.ofCall_keepsLoop he)
  · rw [hmet]
    simp only [ahead, hintake, fed_of_own, List.map_nil, List.nil_append]

theorem readsOn_own {e : Rpc.Event} (es : List Event) (h : r.connection.Stands mode)
    (hw : KeysBelow r.connection.writers r.connection.nextWriter)
    (hplain : r.connection.SpeaksPlainly) (hsmooth : e.isSmooth = true) :
    ReadsOn p r mode (.own e) es := by
  by_cases hquiet : e.isQuiet = true
  · exact (goesOn_own es h hw hplain hquiet).readsOn
  · -- a call that runs out of time, is cancelled or given up
    refine readsOn_of_call es h ?_
    cases e with
    | expire caller | cancel caller | abandon caller => rfl
    | failWrite w fault | stop => cases hsmooth
    | _ => exact absurd rfl hquiet

theorem readsOn_take (es : List Event) (h : r.connection.Stands mode) :
    ReadsOn p r mode .take es := by
  rcases take_cases (p := p) (r := r) with ⟨hevent, hstep⟩ | ⟨piece, rest, htakes⟩
  · refine (goesOn_of_idle h hevent ?_).readsOn
    rw [hstep, ahead, ahead, fed_take]
  · obtain rfl := h.reading_of_ready htakes.ready
    obtain ⟨hsize, hlast, hon⟩ := story_of_next htakes.next es
    have hahead : r.ahead (.take :: es) = r.intake.buffer ++ fed r.intake.ended es := by
      rw [ahead, fed_take]
    rw [ReadsOn, hahead, met_singleton, htakes.event, Connection.trail_singleton, htakes.step,
      Mode.frames]
    rcases Connection.arrive_reads h hsize with ⟨x, hx, hstands⟩ | ⟨hx, hstands⟩
    · -- the piece is the last, and nothing is left of the story
      rw [Connection.meets_of_last hx, hlast x hx]
      rcases hstands with hstands | hstands
      · exact ⟨x.mode, hstands, (Mode.frames_finale _ _ _ x).1.symm⟩
      · exact ⟨.ended, hstands, rfl⟩
    · -- the piece is a frame, and the story goes on
      obtain ⟨f, rfl, hf, hstory⟩ := hon hx
      rw [Connection.meets_of_frame h.2.2.1 hf, hstory]
      rcases hstands with hstands | hstands
      · exact ⟨.reading, hstands, rfl⟩
      · exact ⟨.pausing, hstands, rfl⟩

theorem readsOn {e : Event} (es : List Event) (h : r.connection.Stands mode)
    (hw : KeysBelow r.connection.writers r.connection.nextWriter)
    (hplain : r.connection.SpeaksPlainly) (hsmooth : e.isSmooth = true) :
    ReadsOn p r mode e es := by
  cases e with
  | feed chunk =>
    refine (goesOn_of_idle h rfl ?_).readsOn
    simp only [step, Intake.feed, ahead]
    cases hended : r.intake.ended with
    | true => simp [hended, fed_true]
    | false => simp [fed]
  | finish =>
    refine (goesOn_of_idle h rfl ?_).readsOn
    simp only [step, Intake.finish, ahead]
    cases hended : r.intake.ended with
    | true => simp [fed_true]
    | false => simp [fed_true, fed]
  | take => exact readsOn_take es h
  | own e => exact readsOn_own es h hw hplain hsmooth

/-- Over a whole run, the frames that have been taken in and those that are going to be are the
frames of the story. -/
theorem frames_run {es : List Event} (h : r.connection.Stands mode)
    (hw : KeysBelow r.connection.writers r.connection.nextWriter)
    (hplain : r.connection.SpeaksPlainly) (hsmooth : ∀ e ∈ es, e.isSmooth = true) :
    ∃ mode', (r.run p es).1.connection.Stands mode' ∧
      mode.frames p.side p.limit (r.ahead es) = (r.met p es).map Prod.fst ++
        mode'.frames p.side p.limit (r.run p es).1.intake.buffer := by
  induction es generalizing r mode with
  | nil =>
    have hahead : r.ahead [] = r.intake.buffer := by
      rw [ahead]
      cases r.intake.ended <;> exact List.append_nil _
    rw [hahead]
    exact ⟨mode, h, rfl⟩
  | cons e es ih =>
    obtain ⟨mid, hmid, hframes⟩ := readsOn es h hw hplain (hsmooth e List.mem_cons_self)
    have hw' := step_preserves (p := p) (I := fun c => KeysBelow c.writers c.nextWriter)
      (fun _ _ => Connection.writersBelow_step) hw e
    have hplain' := step_preserves (p := p) (I := Connection.SpeaksPlainly)
      (fun _ _ => Connection.speaksPlainly_step) hplain e
    obtain ⟨mode', hstands, hframes'⟩ := ih hmid hw' hplain'
      fun e he => hsmooth e (List.mem_cons_of_mem _ he)
    refine ⟨mode', hstands, ?_⟩
    rw [hframes, hframes', met_cons e es, List.map_append, List.append_assoc]
    rfl

end Receiver

end Rpc
