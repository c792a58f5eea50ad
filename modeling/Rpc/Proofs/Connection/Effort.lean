import Rpc.Proofs.Connection.Owners
import Rpc.Proofs.Connection.Stream

/-! # The effort that is left

Some steps an end takes by itself: its receive loop takes in the next piece, its calls go on, its
writers get the stream. Each of them lowers the effort that is left, unless it changes nothing. So
an end at which nothing else happens comes to rest after finitely many steps, in whatever order
they are taken.
-/
namespace Rpc

open Message

/-! ## Weighing what is to be done -/

def Stage.effort : Stage → Nat
  | .admitted => 5
  | .numbered _ => 4
  | .writing _ => 2
  | .awaiting _ => 1

/-- A frame behind which the receive loop reads on costs as much as reading. -/
def Purpose.effort : Purpose → Nat
  | .greetingBack | .turnDown => 4
  | _ => 1

def Loop.effort : Loop → Nat
  | .greeting => 5
  | .greeted => 4
  | .reading => 3
  | .paused => 1
  | .unstarted | .over => 0

theorem Stage.effort_pos (s : Stage) : 0 < s.effort := by cases s <;> exact Nat.succ_pos _

theorem Purpose.effort_pos (purpose : Purpose) : 0 < purpose.effort := by
  cases purpose <;> exact Nat.succ_pos _

namespace Connection

variable {σ : Type} {p : Profile σ} {c : Connection σ}

def callsEffort (calls : List (Nat × Call)) : Nat := weight (·.stage.effort) calls

def effort (c : Connection σ) : Nat :=
  c.loop.effort + callsEffort c.calls + weight (·.purpose.effort) c.writers

theorem CallsAfter.effort {may : UInt64 → Reply → Prop} {calls : List (Nat × Call)}
    {after : Connection σ} (h : CallsAfter may calls after) :
    callsEffort after.calls = callsEffort calls := by
  obtain ⟨g, hg, hreceives⟩ := h
  rw [callsEffort, hg, weight_map _ (fun k => by rw [(hreceives k).stage])]
  rfl

/-! ## The small operations -/

theorem move_effort (l : Loop) :
    ({ c with loop := l } : Connection σ).effort + c.loop.effort = c.effort + l.effort := by
  simp only [effort]
  omega

theorem resolve_effort (n : UInt64) (reply : Reply) : (c.resolve n reply).effort = c.effort := by
  have hafter : CallsAfter (fun _ _ => True) c.calls (c.resolve n reply) :=
    callsAfter_resolve trivial
  rw [effort, effort, hafter.effort, resolve_loop, resolve_writers]

theorem teardown_effort : c.teardown.1.effort = c.effort := by
  rw [effort, effort, callsAfter_teardown.effort, teardown_loop, teardown_writers]

theorem leave_effort : c.leave.1.effort + c.loop.effort = c.effort := by
  rw [leave, teardown_effort]
  exact move_effort .over

theorem failHandshake_effort (e : TransportError) :
    (c.failHandshake e).1.effort + c.loop.effort = c.effort := leave_effort

theorem finish_effort {caller : Nat} {k : Call} (hk : c.call? caller = some k) (ending : Ending) :
    (c.finish caller ending).1.effort < c.effort := by
  have hcalls := (callsAfter_forget (c := c) caller).effort
  have hfilter : callsEffort (c.calls.filter (·.1 ≠ caller)) + k.stage.effort ≤
      callsEffort c.calls := weight_filter_ne _ hk
  have hpos := k.stage.effort_pos
  simp only [finish, effort, hcalls, forget_loop, forget_writers]
  omega

theorem setStage_effort (hc : (c.calls.map Prod.fst).Nodup) {caller : Nat} {k : Call}
    (hk : c.call? caller = some k) (stage : Stage) :
    (c.setStage caller stage).effort + k.stage.effort = c.effort + stage.effort := by
  have hbefore := weight_perm (·.stage.effort) (perm_of_lookup hc hk)
  have hafter := weight_perm (·.stage.effort) (setStage_perm hc hk stage)
  simp only [weight_cons] at hbefore hafter
  simp only [effort, callsEffort, setStage_loop, setStage_writers, hbefore, hafter]
  omega

theorem enqueue_effort {purpose : Purpose} {f : Frame} {c' : Connection σ}
    (h : c.enqueue p purpose f = .ok c') : c'.effort = c.effort + purpose.effort := by
  obtain ⟨-, rfl⟩ := enqueue_ok h
  simp only [effort, weight_append, weight_cons]
  exact (Nat.add_assoc _ _ _).symm

theorem dropWriter_effort {w : Nat} {v : Writer} (hv : c.writers.lookup w = some v) :
    (c.dropWriter w).effort + v.purpose.effort ≤ c.effort := by
  have hfilter := weight_filter_ne (·.purpose.effort) hv
  simp only [effort, dropWriter] at hfilter ⊢
  omega

/-! ## The steps -/

/-- What follows upon a written frame costs less than the writer did. -/
theorem resume_effort (hc : (c.calls.map Prod.fst).Nodup) (result : Except TransportError Unit)
    (purpose : Purpose) : (c.resume p result purpose).1.effort < c.effort + purpose.effort := by
  have hpos := purpose.effort_pos
  have hleave := leave_effort (c := c)
  have hstay : c.effort < c.effort + purpose.effort := Nat.lt_add_of_pos_right hpos
  cases purpose with
  | call caller n =>
    simp only [resume]
    split
    · exact hstay
    · rename_i k hk
      split
      · rename_i hs
        split
        · exact Nat.lt_add_right _ (finish_effort hk _)
        · split
          · have hstage := setStage_effort hc hk (.awaiting n)
            rw [hs] at hstage
            change _ + 2 = c.effort + 1 at hstage
            change (c.setStage caller (.awaiting n)).effort < c.effort + 1
            omega
          · exact Nat.lt_add_right _ (finish_effort hk _)
      · exact hstay
  | answer => exact hstay
  | greeting =>
    simp only [resume]
    split
    · rename_i hl
      have hmove := move_effort (c := c) .greeted
      rw [hl] at hmove
      change _ + 5 = c.effort + 4 at hmove
      change ({ c with loop := .greeted } : Connection σ).effort < c.effort + 1
      omega
    · rename_i e _
      have hfail := failHandshake_effort (c := c) (blame p.certificateMissing e)
      omega
    · exact hstay
  | greetingBack =>
    have hmove := move_effort (c := c) .reading
    change _ = c.effort + 3 at hmove
    simp only [resume]
    split
    · change ({ c with loop := .reading } : Connection σ).effort < c.effort + 4
      omega
    · omega
  | turnDown =>
    have hmove := move_effort (c := c) .reading
    change _ = c.effort + 3 at hmove
    change ({ c with loop := .reading } : Connection σ).effort < c.effort + 4
    omega
  | violation =>
    simp only [resume]
    omega
  | farewell =>
    simp only [resume, teardown_effort]
    exact hstay

theorem write_effort (hc : (c.calls.map Prod.fst).Nodup) {w : Nat} {v : Writer}
    (hv : c.writers.lookup w = some v) : (c.write p w).1.effort < c.effort := by
  have hdrop := dropWriter_effort hv
  have hresume := fun result => resume_effort (p := p) (c := c.dropWriter w) hc result v.purpose
  simp only [write, hv]
  split
  · have := hresume (.error .connectionClosed)
    omega
  · change ((c.dropWriter w).resume p (.ok ()) v.purpose).1.effort < c.effort
    have := hresume (.ok ())
    omega

/-- A call goes on, unless it waits for the stream or for its answer. -/
theorem advance_effort (hc : (c.calls.map Prod.fst).Nodup) (caller : Nat) :
    (c.advance p caller = (c, []) ∧ Waits c (.advance caller)) ∨
      (c.advance p caller).1.effort < c.effort := by
  cases hk : c.call? caller with
  | none =>
    refine Or.inl ⟨by simp only [advance, hk], fun caller' k he hk' => ?_⟩
    cases he
    rw [hk] at hk'
    cases hk'
  | some k =>
    have hself : ((∃ n, k.stage = .writing n) ∨ ∃ n, k.stage = .awaiting n ∧ k.inbox = none) →
        Waits c (.advance caller) := by
      intro h caller' k' he hk'
      cases he
      rw [hk] at hk'
      cases hk'
      exact h
    have hend : ∀ (t : CallTable) (s : σ) (ending : Ending),
        (({ c with table := t, surroundings := s } : Connection σ).finish caller ending).1.effort <
          c.effort := fun t s ending =>
      finish_effort (c := { c with table := t, surroundings := s }) hk ending
    cases hs : k.stage with
    | admitted =>
      right
      simp only [advance, hk, hs, number]
      have hnumbered : ∀ (t : CallTable) (n : UInt64),
          (({ c with table := t } : Connection σ).setStage caller (.numbered n)).effort <
            c.effort := by
        intro t n
        have hstage := setStage_effort (c := { c with table := t }) hc hk (.numbered n)
        simp only [hs, Stage.effort] at hstage
        change _ + 5 = c.effort + 4 at hstage
        omega
      split
      · split
        · exact hend _ c.surroundings _
        · exact hnumbered _ _
      · exact hnumbered _ _
    | numbered n =>
      right
      simp only [advance, hk, hs, frame]
      split
      · exact hend c.table _ _
      · split
        · exact hend c.table _ _
        · rename_i c' hq
          have hqueued := enqueue_effort hq
          have hcalls := enqueue_calls hq
          have hc' : (c'.calls.map Prod.fst).Nodup := by rwa [hcalls]
          have hk' : c'.call? caller = some k := by rwa [call?, hcalls]
          have hstage := setStage_effort hc' hk' (.writing n)
          rw [hs, hqueued] at hstage
          change _ + 4 = c.effort + 1 + 2 at hstage
          change (c'.setStage caller (.writing n)).effort < c.effort
          omega
    | writing n => exact Or.inl ⟨by simp only [advance, hk, hs], hself (Or.inl ⟨n, hs⟩)⟩
    | awaiting n =>
      cases hi : k.inbox with
      | none =>
        exact Or.inl ⟨by simp only [advance, hk, hs, hi], hself (Or.inr ⟨n, hs, hi⟩)⟩
      | some reply =>
        right
        cases reply with
        | ok payload =>
          simp only [advance, hk, hs, hi]
          exact finish_effort hk _
        | error e =>
          simp only [advance, hk, hs, hi]
          exact finish_effort hk _

theorem say_effort {purpose : Purpose} {f : Except CodecError Frame}
    {otherwise : Connection σ → Progress σ} (hl : c.loop = .reading)
    (h : (otherwise c).1.effort + 2 ≤ c.effort + purpose.effort) :
    (c.say p purpose f otherwise).1.effort + 2 ≤ c.effort + purpose.effort := by
  unfold say
  split
  · exact h
  · split
    · exact h
    · rename_i c' hq
      have hqueued := enqueue_effort hq
      have hl' : c'.loop = .reading := by
        obtain ⟨-, rfl⟩ := enqueue_ok hq
        exact hl
      have hmove := move_effort (c := c') .paused
      rw [hl', hqueued] at hmove
      change _ + 3 = _ + 1 at hmove
      exact Nat.le_of_eq (Nat.succ_inj.mp hmove)

theorem leave_effort_lt (hl : c.loop = .reading) : c.leave.1.effort + 3 = c.effort := by
  have hleave := leave_effort (c := c)
  rw [hl] at hleave
  exact hleave

theorem violate_effort (hl : c.loop = .reading) (code : UInt32) (details : String) :
    (c.violate p code details).1.effort < c.effort := by
  have hleave := leave_effort_lt hl
  have hsay : (c.say p .violation (noticeFrame (.violation code details)) leave).1.effort + 2 ≤
      c.effort + 1 := say_effort hl (by omega)
  change (c.say p .violation (noticeFrame (.violation code details)) leave).1.effort < c.effort
  omega

theorem follow_effort (hl : c.loop = .reading) (r : Reaction) :
    (c.follow p r).1.effort ≤ c.effort + 2 := by
  have hleave := leave_effort_lt hl
  cases r with
  | readOn => exact Nat.le_add_right _ _
  | greetBack =>
    have hsay : (c.say p .greetingBack (noticeFrame .greeting) leave).1.effort + 2 ≤
        c.effort + 4 := say_effort hl (by omega)
    exact Nat.le_of_add_le_add_right hsay
  | violation code details =>
    have hviolate := violate_effort (p := p) hl code details
    change (c.violate p code details).1.effort ≤ _
    omega
  | leave =>
    change c.leave.1.effort ≤ _
    omega
  | serve n d => exact Nat.le_add_right _ _
  | notify d => exact Nat.le_add_right _ _
  | turnDown n fault =>
    simp only [follow]
    split
    · rename_i f _
      have hsay : (Connection.say { c with surroundings :=
          (finalAnswer p.stack n (.error fault) c.surroundings).2 } p .turnDown (.ok f)
          fun c => (c, [])).1.effort + 2 ≤ c.effort + 4 :=
        say_effort hl (Nat.add_le_add_left (by decide) _)
      exact Nat.le_of_add_le_add_right hsay
    · exact Nat.le_add_right _ _
  | complete n reply =>
    change (c.resolve n reply).effort ≤ _
    rw [resolve_effort]
    exact Nat.le_add_right _ _

/-- A frame costs little, and everything else brings the end nearer. -/
theorem arrive_effort (h : c.loop.isReady = true) (piece : Incoming) :
    (c.arrive p piece).1.effort < c.effort ∨
      (∃ f, piece = .frame f) ∧ (c.arrive p piece).1.effort ≤ c.effort + 2 := by
  have hready : c.loop = .greeted ∨ c.loop = .reading := by
    cases hl : c.loop with
    | greeted => exact Or.inl rfl
    | reading => exact Or.inr rfl
    | _ =>
      rw [hl] at h
      cases h
  rcases hready with hl | hl
  · left
    have hfail := leave_effort (c := c)
    rw [hl] at hfail
    change _ + 4 = c.effort at hfail
    have hfail' : ∀ e, (c.failHandshake e).1.effort < c.effort := fun e => by
      change c.leave.1.effort < c.effort
      omega
    simp only [arrive, hl]
    cases piece with
    | frame f =>
      simp only [greet]
      split
      · have hmove := move_effort (c := c) .reading
        rw [hl] at hmove
        change _ + 4 = c.effort + 3 at hmove
        change ({ c with loop := .reading } : Connection σ).effort < c.effort
        omega
      · exact hfail' _
    | malformed e => exact hfail' _
    | broken fault => exact hfail' _
    | ended => exact hfail' _
  · have hleave := leave_effort_lt hl
    simp only [arrive, hl]
    cases piece with
    | frame f =>
      refine Or.inr ⟨⟨f, rfl⟩, ?_⟩
      exact follow_effort (c := { c with
        surroundings := (react p.side p.stack f c.surroundings).2 }) hl _
    | malformed e => exact Or.inl (violate_effort hl _ _)
    | broken fault =>
      left
      change c.leave.1.effort < c.effort
      omega
    | ended =>
      left
      change c.leave.1.effort < c.effort
      omega

/-- A start costs the greeting and the wait for an answer at most. -/
theorem start_effort : (c.start p).1.effort ≤ c.effort + 6 := by
  have hmove := fun l : Loop => move_effort (c := c) l
  unfold start
  split
  · exact Nat.le_add_right _ _
  · rename_i hloop
    have hl : c.loop = .unstarted := not_not.mp hloop
    cases p.side with
    | server =>
      dsimp only
      split
      · have := hmove .over
        simp only [hl, Loop.effort] at this
        exact Nat.le_add_right_of_le (Nat.le_of_eq this)
      · have := hmove .reading
        simp only [hl, Loop.effort] at this
        change ({ c with loop := .reading } : Connection σ).effort ≤ _
        omega
    | client =>
      have hfails : ∀ e, (Connection.failHandshake { c with phase := .connecting } e).1.effort ≤
          c.effort + 6 := fun e => by
        have := failHandshake_effort (c := { c with phase := .connecting }) e
        change _ = c.effort at this
        omega
      dsimp only
      split
      · exact hfails _
      · split
        · exact hfails _
        · split
          · exact hfails _
          · rename_i c' hq
            have hqueued := enqueue_effort hq
            have hgreets := move_effort (c := c') .greeting
            change c'.effort = c.effort + 1 at hqueued
            simp only [Loop.effort] at hgreets
            change ({ c' with loop := .greeting } : Connection σ).effort ≤ _
            omega

theorem ended_effort (h : c.loop.isReady = true) : (c.arrive p .ended).1.effort < c.effort := by
  refine (arrive_effort h .ended).resolve_right ?_
  rintro ⟨⟨f, hf⟩, -⟩
  cases hf

end Connection

/-! ## Taking in -/

theorem Intake.next?_length {i i' : Intake} {limit : Nat} {piece : Incoming}
    (h : i.next? limit = some (piece, i')) : i'.ended = i.ended ∧
      i'.buffer.length ≤ i.buffer.length ∧
      ∀ f, piece = .frame f → i'.buffer.length < i.buffer.length := by
  unfold next? at h
  cases hread : Frame.read limit i.buffer with
  | frame f rest =>
    rw [hread] at h
    cases h
    have hlt := Frame.read_rest_length_lt hread
    exact ⟨rfl, Nat.le_of_lt hlt, fun _ _ => hlt⟩
  | refused e rest =>
    rw [hread] at h
    cases h
    exact ⟨rfl, Nat.le_of_lt (Frame.read_refused_length_lt hread), by simp⟩
  | stuck e =>
    rw [hread] at h
    cases h
    exact ⟨rfl, Nat.le_refl _, by simp⟩
  | incomplete =>
    rw [hread] at h
    simp only at h
    split at h
    · cases h
    · split at h
      · cases h
        exact ⟨rfl, Nat.le_refl _, by simp⟩
      · cases h
        exact ⟨rfl, Nat.le_refl _, by simp⟩

/-- Behind the last octets there is always a piece, be it the end. -/
theorem Intake.exists_next (limit : Nat) {i : Intake} (h : i.ended = true) :
    ∃ piece i', i.next? limit = some (piece, i') := by
  unfold next?
  cases Frame.read limit i.buffer with
  | incomplete => cases hempty : i.buffer.isEmpty <;> simp [h]
  | _ => exact ⟨_, _, rfl⟩

namespace Receiver

variable {σ : Type} {p : Profile σ} {r : Receiver σ}

/-- Whether an event is a step that an end takes by itself. -/
def Event.isWork : Event → Bool
  | .take | .own (.advance _) | .own (.write _) => true
  | _ => false

def effort (r : Receiver σ) : Nat := 3 * r.intake.buffer.length + r.connection.effort

theorem take_effort (hready : r.connection.loop.isReady = true) {piece : Incoming}
    {intake : Intake} (h : r.intake.next? p.limit = some (piece, intake)) :
    (r.take p).1.effort < r.effort := by
  obtain ⟨-, hle, hlt⟩ := Intake.next?_length h
  have htake : (r.take p).1 = ⟨(r.connection.arrive p piece).1, intake⟩ := by
    simp only [take, hready, if_true, h]
    rfl
  rw [htake]
  simp only [effort]
  rcases Connection.arrive_effort (p := p) hready piece with harrive | ⟨⟨f, rfl⟩, harrive⟩
  · omega
  · have := hlt f rfl
    omega

end Receiver

end Rpc
