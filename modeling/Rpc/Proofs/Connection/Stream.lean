import Rpc.Connection.Intake
import Rpc.Proofs.Connection.Loop

/-! # Taking in a stream

A run of a receiver is a run of its connection, to which the pieces of the stream arrive one by one.
The story of what is ahead, together with what has been taken in of it, stays the same in every
step, however the octets are cut.
-/
namespace Rpc

open Message

namespace Connection

variable {σ : Type} {p : Profile σ} {c : Connection σ}

variable (p c) in
/-- The frame before the end of the story that a step takes in, with the state of the layers. -/
def meets : Event → List (Frame × σ)
  | .arrive (.frame f) =>
    if c.loop = .reading ∧ f.finale? p.side = none then [(f, c.surroundings)] else []
  | _ => []

theorem meets_of_last {piece : Incoming} {x : Finale} (hx : piece.finale? p.side = some x) :
    c.meets p (.arrive piece) = [] := by
  cases piece with
  | frame f => exact if_neg fun hf => by simp [Incoming.finale?, hf.2] at hx
  | _ => rfl

theorem meets_of_frame {f : Frame} (hl : c.loop = .reading) (hf : f.finale? p.side = none) :
    c.meets p (.arrive (.frame f)) = [(f, c.surroundings)] := if_pos ⟨hl, hf⟩

/-- Only a receive loop that reads is ready for the next piece. -/
theorem Stands.reading_of_ready {mode : Mode} (h : c.Stands mode) (hready : c.loop.isReady = true) :
    mode = .reading := by
  cases mode with
  | reading => rfl
  | _ =>
    rw [h.2.2.1] at hready
    cases hready

theorem takes_gives (e : Event) :
    (c.takes p e).filterMap (·.2.serve?) = (c.meets p e).filterMap (Frame.request? p.stack) ∧
    (c.takes p e).filterMap (·.2.notify?) = (c.meets p e).filterMap (Frame.event? p.stack) ∧
    (c.takes p e).filterMap (·.2.reply?) = (c.meets p e).filterMap (Frame.reply? p.stack) := by
  cases e with
  | arrive incoming =>
    cases incoming with
    | frame f =>
      by_cases hl : c.loop = .reading
      · have hgives := react_gives p.side p.stack f c.surroundings
        have hlast := react_finale? p.stack f c.surroundings p.side
        rw [takes_frame hl]
        cases hf : f.finale? p.side with
        | none =>
          simp only [meets_of_frame hl hf, List.filterMap_cons, List.filterMap_nil, hgives.1, hgives.2.1,
            hgives.2.2, and_self]
        | some x =>
          have hmeets : c.meets p (.arrive (.frame f)) = [] := if_neg (by simp [hf])
          have hnothing : ∀ r : Reaction, r.finale? = some x →
              r.serve? = none ∧ r.notify? = none ∧ r.reply? = none := by
            intro r hr
            cases r with
            | violation code details => exact ⟨rfl, rfl, rfl⟩
            | leave => exact ⟨rfl, rfl, rfl⟩
            | _ => cases hr
          obtain ⟨hserve, hnotify, hreply⟩ := hnothing _ (hlast.trans hf)
          simp only [hmeets, List.filterMap_cons, List.filterMap_nil, hserve, hnotify, hreply,
            and_self]
      · have hmeets : c.meets p (.arrive (.frame f)) = [] := if_neg fun h => hl h.1
        rw [takes_of_ne_reading hl, hmeets]
        exact ⟨rfl, rfl, rfl⟩
    | _ => exact ⟨rfl, rfl, rfl⟩
  | _ => exact ⟨rfl, rfl, rfl⟩

end Connection

namespace Receiver

variable {σ : Type}

section Runs

variable (p : Profile σ) (r : Receiver σ)

def eventAt : Event → List Rpc.Event
  | .take =>
    if r.connection.loop.isReady then
      match r.intake.next? p.limit with
      | some (piece, _) => [.arrive piece]
      | none => []
    else []
  | .own (.arrive _) => []
  | .own e => [e]
  | .feed _ | .finish => []

def eventsOf : Receiver σ → List Event → List Rpc.Event
  | _, [] => []
  | r, e :: es => r.eventAt p e ++ eventsOf (r.step p e).1 es

/-- The receive loop takes in a piece, and the rest of what has come stays. -/
structure TakesIn (piece : Incoming) (rest : Intake) : Prop where
  ready : r.connection.loop.isReady = true
  next : r.intake.next? p.limit = some (piece, rest)
  event : r.eventAt p .take = [.arrive piece]
  step : r.step p .take =
    (⟨(r.connection.arrive p piece).1, rest⟩, (r.connection.arrive p piece).2)

variable {p r}

theorem takesIn_of_ready (hready : r.connection.loop.isReady = true) {piece : Incoming}
    {rest : Intake} (hnext : r.intake.next? p.limit = some (piece, rest)) :
    TakesIn p r piece rest where
  ready := hready
  next := hnext
  event := by simp only [eventAt, hready, if_true, hnext]
  step := by
    simp only [step, take, hready, if_true, hnext]
    rfl

/-- A take is idle, or it takes in a piece. -/
theorem take_cases : r.eventAt p .take = [] ∧ r.step p .take = (r, []) ∨
    ∃ piece rest, TakesIn p r piece rest := by
  cases hready : r.connection.loop.isReady with
  | false =>
    refine Or.inl ⟨?_, ?_⟩
    · simp [eventAt, hready]
    · simp [step, take, hready]
  | true =>
    cases hnext : r.intake.next? p.limit with
    | none =>
      refine Or.inl ⟨?_, ?_⟩
      · simp [eventAt, hnext]
      · simp [step, take, hnext]
    | some next => exact Or.inr ⟨next.1, next.2, takesIn_of_ready hready hnext⟩

theorem step_eq (e : Event) :
    (r.step p e).1.connection = (r.connection.run p (r.eventAt p e)).1 ∧
      (r.step p e).2 = (r.connection.run p (r.eventAt p e)).2 := by
  cases e with
  | feed chunk => exact ⟨rfl, rfl⟩
  | finish => exact ⟨rfl, rfl⟩
  | take =>
    rcases take_cases (p := p) (r := r) with ⟨hevent, hstep⟩ | ⟨piece, rest, h⟩
    · rw [hevent, hstep]
      exact ⟨rfl, rfl⟩
    · rw [h.event, h.step, Connection.run_singleton]
      exact ⟨rfl, rfl⟩
  | own e =>
    cases e with
    | arrive incoming => exact ⟨rfl, rfl⟩
    | _ =>
      simp only [eventAt, Connection.run_singleton]
      exact ⟨rfl, rfl⟩

theorem run_eq (es : List Event) :
    (r.run p es).1.connection = (r.connection.run p (eventsOf p r es)).1 ∧
      (r.run p es).2 = (r.connection.run p (eventsOf p r es)).2 := by
  induction es generalizing r with
  | nil => exact ⟨rfl, rfl⟩
  | cons e es ih =>
    obtain ⟨hstate, houtputs⟩ := step_eq (p := p) (r := r) e
    obtain ⟨ihstate, ihoutputs⟩ := ih (r := (r.step p e).1)
    rw [hstate] at ihstate ihoutputs
    rw [eventsOf, Connection.run_append]
    refine ⟨ihstate, ?_⟩
    rw [← houtputs, ← ihoutputs]
    rfl

theorem step_preserves {I : Connection σ → Prop} (hstep : ∀ c e, I c → I (c.step p e).1)
    (h : I r.connection) (e : Event) : I (r.step p e).1.connection := by
  rw [(step_eq e).1]
  exact Connection.run_preserves hstep h _

theorem run_append (es fs : List Event) :
    r.run p (es ++ fs) =
      (((r.run p es).1.run p fs).1, (r.run p es).2 ++ ((r.run p es).1.run p fs).2) := by
  induction es generalizing r with
  | nil => rfl
  | cons e es ih => simp only [List.cons_append, run, ih, List.append_assoc]

theorem eventsOf_append (es fs : List Event) :
    eventsOf p r (es ++ fs) = eventsOf p r es ++ eventsOf p (r.run p es).1 fs := by
  induction es generalizing r with
  | nil => rfl
  | cons e es ih => simp only [List.cons_append, eventsOf, run, ih, List.append_assoc]

end Runs

/-! ## What is ahead -/

def fed : (ended : Bool) → List Event → Bytes
  | false, .feed chunk :: es => chunk ++ fed false es
  | false, .finish :: _ => []
  | false, _ :: es => fed false es
  | _, _ => []

/-- The octets that have not been taken in, of those that have come and those that will. -/
def ahead (r : Receiver σ) (es : List Event) : Bytes :=
  r.intake.buffer ++ fed r.intake.ended es

end Receiver

/-- A piece that leads some octets, with the rest of them behind it. -/
def Incoming.Leads (limit : Nat) (octets rest : Bytes) : Incoming → Prop
  | .frame f => Frame.read limit octets = .frame f rest
  | .malformed e => Frame.read limit octets = .refused e rest ∨ Frame.read limit octets = .stuck e
  | .broken fault => fault = .cutFrame ∧ Frame.read limit octets = .incomplete ∧ octets ≠ []
  | .ended => Frame.read limit octets = .incomplete ∧ octets = []

namespace Mode

/-- The frames that a receive loop is going to take in before the end. -/
def frames (side : Side) (limit : Nat) (ahead : Bytes) : Mode → List Frame
  | .reading | .pausing => (story side limit ahead).frames
  | .violating _ _ | .ended => []

def complaints (side : Side) (limit : Nat) (ahead : Bytes) : Mode → List (UInt32 × String)
  | .reading | .pausing => (story side limit ahead).finale.complaint?.toList
  | .violating code details => [(code, details)]
  | .ended => []

theorem frames_finale (side : Side) (limit : Nat) (ahead : Bytes) (x : Finale) :
    x.mode.frames side limit ahead = [] ∧
      x.mode.complaints side limit ahead = x.complaint?.toList := by
  cases x <;> exact ⟨rfl, rfl⟩

end Mode

namespace Receiver

variable {σ : Type} {p : Profile σ} {r : Receiver σ} {mode : Mode}

/-- Whether an event is one of a receiver that is left alone. -/
def Event.isQuiet : Event → Bool
  | .own e => e.isQuiet
  | _ => true

theorem fed_true (es : List Event) : fed true es = [] := by cases es <;> rfl

/-- The next piece leads what is in the buffer and what is going to be fed. -/
theorem leads_of_next {limit : Nat} {i i' : Intake} {piece : Incoming}
    (h : i.next? limit = some (piece, i')) (es : List Event) :
    piece.Leads limit (i.buffer ++ fed i.ended es) (i'.buffer ++ fed i'.ended es) := by
  unfold Intake.next? at h
  cases hread : Frame.read limit i.buffer with
  | frame f rest =>
    rw [hread] at h
    cases h
    have happend := Frame.read_append (by rw [hread]; simp) (fed i.ended es)
    rw [hread] at happend
    exact happend
  | refused e rest =>
    rw [hread] at h
    cases h
    have happend := Frame.read_append (by rw [hread]; simp) (fed i.ended es)
    rw [hread] at happend
    exact Or.inl happend
  | stuck e =>
    rw [hread] at h
    cases h
    have happend := Frame.read_append (by rw [hread]; simp) (fed i.ended es)
    rw [hread] at happend
    exact Or.inr happend
  | incomplete =>
    rw [hread] at h
    cases hended : i.ended with
    | false => simp [hended] at h
    | true =>
      rw [fed_true, List.append_nil]
      cases hempty : i.buffer.isEmpty with
      | true =>
        simp only [hended, hempty, Bool.not_true, Bool.false_eq_true, if_false, if_true] at h
        cases h
        exact ⟨hread, List.isEmpty_iff.mp hempty⟩
      | false =>
        simp only [hended, hempty, Bool.not_true, Bool.false_eq_true, if_false] at h
        cases h
        exact ⟨rfl, hread, List.isEmpty_eq_false_iff.mp hempty⟩

/-- The next piece is the last of the story, or its first frame. -/
theorem story_of_next {i i' : Intake} {piece : Incoming} (h : i.next? p.limit = some (piece, i'))
    (es : List Event) :
    (∀ f, piece = .frame f → f.bodySize ≤ p.limit) ∧
    (∀ x, piece.finale? p.side = some x →
      story p.side p.limit (i.buffer ++ fed i.ended es) = ⟨[], x⟩) ∧
    (piece.finale? p.side = none → ∃ f, piece = .frame f ∧ f.finale? p.side = none ∧
      story p.side p.limit (i.buffer ++ fed i.ended es) =
        ⟨f :: (story p.side p.limit (i'.buffer ++ fed i'.ended es)).frames,
          (story p.side p.limit (i'.buffer ++ fed i'.ended es)).finale⟩) := by
  have hleads := leads_of_next h es
  cases piece with
  | frame f =>
    refine ⟨fun f' hf => ?_, fun x hx => story_of_last hleads hx,
      fun hf => ⟨f, rfl, hf, story_of_frame hleads hf⟩⟩
    cases hf
    exact Frame.bodySize_le_of_read hleads
  | malformed e =>
    refine ⟨by simp, fun x hx => ?_, fun hnone => (by cases hnone)⟩
    cases hx
    rcases hleads with hrefused | hstuck
    · exact story_of_refused hrefused
    · exact story_of_stuck hstuck
  | broken fault =>
    refine ⟨by simp, fun x hx => ?_, fun hnone => (by cases hnone)⟩
    cases hx
    exact story_of_incomplete hleads.2.1
  | ended =>
    refine ⟨by simp, fun x hx => ?_, fun hnone => (by cases hnone)⟩
    cases hx
    exact story_of_incomplete hleads.1

variable (p) in
def met (r : Receiver σ) (es : List Event) : List (Frame × σ) :=
  r.connection.trail p (Connection.meets p) (eventsOf p r es)

variable (p) in
def told (r : Receiver σ) (es : List Event) : List (UInt32 × String) :=
  (r.connection.trail p Connection.writes (eventsOf p r es)).filterMap Frame.complaint?

/-- The limit lets the notice through that is going to be written, if any. -/
def Admitted (p : Profile σ) (r : Receiver σ) (mode : Mode) (es : List Event) : Prop :=
  ∀ code details, (code, details) ∈ mode.complaints p.side p.limit (r.ahead es) →
    Connection.Admits p code details

/-- The receive loop goes on so that what it is going to do makes up for what it does. -/
def GoesOn (p : Profile σ) (r : Receiver σ) (mode : Mode) (e : Event) (es : List Event) : Prop :=
  ∃ mode', (r.step p e).1.connection.Stands mode' ∧
    mode.frames p.side p.limit (r.ahead (e :: es)) =
      (r.met p [e]).map Prod.fst ++ mode'.frames p.side p.limit ((r.step p e).1.ahead es) ∧
    mode.complaints p.side p.limit (r.ahead (e :: es)) =
      r.told p [e] ++ mode'.complaints p.side p.limit ((r.step p e).1.ahead es)

theorem Admitted.tail {mid : Mode} {e : Event} {es : List Event} (h : Admitted p r mode (e :: es))
    (hcomplaints : mode.complaints p.side p.limit (r.ahead (e :: es)) =
      r.told p [e] ++ mid.complaints p.side p.limit ((r.step p e).1.ahead es)) :
    Admitted p (r.step p e).1 mid es := by
  intro code details hmem
  refine h code details ?_
  rw [hcomplaints]
  exact List.mem_append_right _ hmem

theorem met_singleton (e : Event) :
    r.met p [e] = r.connection.trail p (Connection.meets p) (r.eventAt p e) := by
  rw [met, eventsOf, eventsOf, List.append_nil]

theorem told_singleton (e : Event) :
    r.told p [e] =
      (r.connection.trail p Connection.writes (r.eventAt p e)).filterMap Frame.complaint? := by
  rw [told, eventsOf, eventsOf, List.append_nil]

/-- An event that is nothing to the connection. -/
theorem goesOn_of_idle {e : Event} {es : List Event} (h : r.connection.Stands mode)
    (hevent : r.eventAt p e = []) (hahead : (r.step p e).1.ahead es = r.ahead (e :: es)) :
    GoesOn p r mode e es := by
  have hstate := (step_eq (p := p) (r := r) e).1
  rw [hevent] at hstate
  refine ⟨mode, by rw [hstate]; exact h, ?_, ?_⟩
  · rw [met_singleton, hevent, hahead]
    rfl
  · rw [told_singleton, hevent, hahead]
    rfl

theorem fed_of_own (ended : Bool) (e : Rpc.Event) (es : List Event) :
    fed ended (.own e :: es) = fed ended es := by
  cases ended with
  | true => rw [fed_true, fed_true]
  | false => rfl

theorem goesOn_own {e : Rpc.Event} (es : List Event) (h : r.connection.Stands mode)
    (hw : KeysBelow r.connection.writers r.connection.nextWriter)
    (hplain : r.connection.SpeaksPlainly) (hquiet : e.isQuiet = true) :
    GoesOn p r mode (.own e) es := by
  by_cases harrive : ∃ incoming, e = .arrive incoming
  · obtain ⟨incoming, rfl⟩ := harrive
    exact goesOn_of_idle h rfl (by simp only [step, ahead, fed_of_own])
  · have harrive : ∀ incoming, e ≠ .arrive incoming := fun incoming he => harrive ⟨incoming, he⟩
    have hevent : r.eventAt p (.own e) = [e] := by
      cases e with
      | arrive incoming => exact absurd rfl (harrive incoming)
      | _ => rfl
    have hstep : r.step p (.own e) =
        ({ r with connection := (r.connection.step p e).1 }, (r.connection.step p e).2) := by
      cases e with
      | arrive incoming => exact absurd rfl (harrive incoming)
      | _ => rfl
    have hahead : (r.step p (.own e)).1.ahead es = r.ahead (.own e :: es) := by
      rw [hstep]
      simp only [ahead, fed_of_own]
    have hmet : r.met p [.own e] = [] := by
      rw [met_singleton, hevent, Connection.trail_singleton]
      cases e with
      | arrive incoming => exact absurd rfl (harrive incoming)
      | _ => rfl
    have htold : r.told p [.own e] = (r.connection.writes e).filterMap Frame.complaint? := by
      rw [told_singleton, hevent, Connection.trail_singleton]
    rw [GoesOn, hahead, hmet, htold, hstep]
    by_cases hwrite : ∃ w, e = .write w
    · obtain ⟨w, rfl⟩ := hwrite
      rcases Connection.write_stands (p := p) h hw hplain w with
        ⟨hstands, hsay⟩ | ⟨rfl, hstands, hsay⟩ | ⟨code, details, rfl, hstands, hsay⟩
      · exact ⟨mode, hstands, rfl, by rw [hsay]; rfl⟩
      · exact ⟨.reading, hstands, rfl, by rw [hsay]; rfl⟩
      · exact ⟨.ended, hstands, rfl, by rw [hsay]; rfl⟩
    · have hwrite : ∀ w, e ≠ .write w := fun w he => hwrite ⟨w, he⟩
      have hkeep := Connection.quiet_keepsLoop (p := p) h hquiet hwrite harrive
      have hsay : r.connection.writes e = [] := by
        cases e with
        | write w => exact absurd rfl (hwrite w)
        | _ => rfl
      exact ⟨mode, h.keep hkeep, rfl, by rw [hsay]; rfl⟩

theorem fed_take (ended : Bool) (es : List Event) : fed ended (.take :: es) = fed ended es := by
  cases ended with
  | true => rw [fed_true, fed_true]
  | false => rfl

theorem goesOn_take {es : List Event} (h : r.connection.Stands mode)
    (hadmits : Admitted p r mode (.take :: es)) : GoesOn p r mode .take es := by
  rcases take_cases (p := p) (r := r) with ⟨hevent, hstep⟩ | ⟨piece, rest, htakes⟩
  · refine goesOn_of_idle h hevent ?_
    rw [hstep, ahead, ahead, fed_take]
  · obtain rfl := h.reading_of_ready htakes.ready
    obtain ⟨hsize, hlast, hon⟩ := story_of_next htakes.next es
    have hahead : r.ahead (.take :: es) = r.intake.buffer ++ fed r.intake.ended es := by
      rw [ahead, fed_take]
    have hadmits' : ∀ code details, piece.finale? p.side = some (.violation code details) →
        Connection.Admits p code details := by
      intro code details hx
      refine hadmits code details ?_
      rw [hahead, Mode.complaints, hlast _ hx]
      exact List.mem_singleton_self _
    have htold : r.told p [.take] = [] := by
      rw [told_singleton, htakes.event, Connection.trail_singleton]
      rfl
    rw [GoesOn, htold, hahead, met_singleton, htakes.event, Connection.trail_singleton, htakes.step]
    rcases Connection.arrive_stands h hsize hadmits' with ⟨x, hx, hstands⟩ | ⟨hx, hstands⟩
    · -- the piece is the last, and nothing is left of the story
      obtain ⟨hframes, hcomplaints⟩ := Mode.frames_finale p.side p.limit
        (ahead ⟨(r.connection.arrive p piece).1, rest⟩ es) x
      refine ⟨x.mode, hstands, ?_, ?_⟩
      · rw [Connection.meets_of_last hx, Mode.frames, hlast x hx, hframes]
        rfl
      · rw [Mode.complaints, hlast x hx, hcomplaints]
        rfl
    · -- the piece is a frame, and the story goes on
      obtain ⟨f, rfl, hf, hstory⟩ := hon hx
      rw [Connection.meets_of_frame h.2.2.1 hf]
      rcases hstands with hstands | hstands
      · refine ⟨.reading, hstands, ?_, ?_⟩
        · rw [Mode.frames, hstory]
          rfl
        · rw [Mode.complaints, hstory]
          rfl
      · refine ⟨.pausing, hstands, ?_, ?_⟩
        · rw [Mode.frames, hstory]
          rfl
        · rw [Mode.complaints, hstory]
          rfl

theorem goesOn {e : Event} {es : List Event} (h : r.connection.Stands mode)
    (hw : KeysBelow r.connection.writers r.connection.nextWriter)
    (hplain : r.connection.SpeaksPlainly) (hquiet : e.isQuiet = true)
    (hadmits : Admitted p r mode (e :: es)) : GoesOn p r mode e es := by
  cases e with
  | feed chunk =>
    refine goesOn_of_idle h rfl ?_
    simp only [step, Intake.feed, ahead]
    cases hended : r.intake.ended with
    | true => simp [hended, fed_true]
    | false => simp [fed]
  | finish =>
    refine goesOn_of_idle h rfl ?_
    simp only [step, Intake.finish, ahead]
    cases hended : r.intake.ended with
    | true => simp [fed_true]
    | false => simp [fed_true, fed]
  | take => exact goesOn_take h hadmits
  | own e => exact goesOn_own es h hw hplain hquiet

theorem met_cons (e : Event) (es : List Event) :
    r.met p (e :: es) = r.met p [e] ++ (r.step p e).1.met p es := by
  rw [met_singleton, met, met, eventsOf, Connection.trail_append, ← (step_eq e).1]

theorem told_cons (e : Event) (es : List Event) :
    r.told p (e :: es) = r.told p [e] ++ (r.step p e).1.told p es := by
  rw [told_singleton, told, told, eventsOf, Connection.trail_append, ← (step_eq e).1,
    List.filterMap_append]

/-- Over a whole run, what the receive loop does and what it is going to do make up the story. -/
theorem stands_run {es : List Event} (h : r.connection.Stands mode)
    (hw : KeysBelow r.connection.writers r.connection.nextWriter)
    (hplain : r.connection.SpeaksPlainly) (hquiet : ∀ e ∈ es, e.isQuiet = true)
    (hadmits : Admitted p r mode es) :
    ∃ mode', (r.run p es).1.connection.Stands mode' ∧
      mode.frames p.side p.limit (r.ahead es) = (r.met p es).map Prod.fst ++
        mode'.frames p.side p.limit (r.run p es).1.intake.buffer ∧
      mode.complaints p.side p.limit (r.ahead es) = r.told p es ++
        mode'.complaints p.side p.limit (r.run p es).1.intake.buffer := by
  induction es generalizing r mode with
  | nil =>
    have hahead : r.ahead [] = r.intake.buffer := by
      rw [ahead]
      cases r.intake.ended <;> exact List.append_nil _
    rw [hahead]
    exact ⟨mode, h, rfl, rfl⟩
  | cons e es ih =>
    obtain ⟨mid, hmid, hframes, hcomplaints⟩ :=
      goesOn h hw hplain (hquiet e List.mem_cons_self) hadmits
    have hw' := step_preserves (p := p) (I := fun c => KeysBelow c.writers c.nextWriter)
      (fun _ _ => Connection.writersBelow_step) hw e
    have hplain' := step_preserves (p := p) (I := Connection.SpeaksPlainly)
      (fun _ _ => Connection.speaksPlainly_step) hplain e
    obtain ⟨mode', hstands, hframes', hcomplaints'⟩ := ih hmid hw' hplain'
      (fun e he => hquiet e (List.mem_cons_of_mem _ he)) (hadmits.tail hcomplaints)
    refine ⟨mode', hstands, ?_, ?_⟩
    · rw [hframes, hframes', met_cons e es, List.map_append, List.append_assoc]
      rfl
    · rw [hcomplaints, hcomplaints', told_cons e es, List.append_assoc]
      rfl

/-! ## What has not been taken in -/

variable (p) in
/-- Nothing is taken in during some events, whatever else happens. -/
def Untaken (r : Receiver σ) (es : List Event) : Prop :=
  ∀ incoming, Rpc.Event.arrive incoming ∉ eventsOf p r es

/-- What is ahead stays ahead as long as nothing is taken in. -/
theorem ahead_of_untaken {es : List Event} (h : r.Untaken p es) (fs : List Event) :
    (r.run p es).1.ahead fs = r.ahead (es ++ fs) := by
  induction es generalizing r with
  | nil => rfl
  | cons e es ih =>
    have hrest : (r.step p e).1.Untaken p es := fun incoming hmem =>
      h incoming (List.mem_append_right _ hmem)
    rw [run, ih hrest, List.cons_append]
    cases e with
    | feed chunk =>
      simp only [step, Intake.feed, ahead]
      cases hended : r.intake.ended with
      | true => simp only [if_true, hended, fed]
      | false => simp only [Bool.false_eq_true, if_false, fed, List.append_assoc]
    | finish =>
      cases hended : r.intake.ended <;>
        simp only [step, Intake.finish, ahead, hended, fed_true, fed]
    | take =>
      rcases take_cases (p := p) (r := r) with ⟨-, hstep⟩ | ⟨piece, rest, htakes⟩
      · rw [hstep, ahead, ahead, fed_take]
      · refine absurd (List.mem_append_left _ ?_) (h piece)
        rw [htakes.event]
        exact List.mem_singleton_self _
    | own e => cases e <;> simp only [step, ahead, fed_of_own]

theorem ahead_nil : r.ahead [] = r.intake.buffer := by
  rw [ahead]
  cases r.intake.ended <;> exact List.append_nil _

theorem buffer_of_untaken {es : List Event} (h : r.Untaken p es) :
    (r.run p es).1.intake.buffer = r.ahead es := by
  rw [← ahead_nil, ahead_of_untaken h, List.append_nil]

theorem met_of_untaken {es : List Event} (h : r.Untaken p es) : r.met p es = [] := by
  rw [met, List.eq_nil_iff_forall_not_mem]
  intro x hx
  obtain ⟨front, e, back, hes, hmem⟩ := Connection.mem_trail_iff.mp hx
  cases e with
  | arrive incoming => exact h incoming (hes ▸ List.mem_append_right _ List.mem_cons_self)
  | _ => cases hmem

theorem met_append (es fs : List Event) :
    r.met p (es ++ fs) = r.met p es ++ (r.run p es).1.met p fs := by
  rw [met, eventsOf_append, Connection.trail_append, met, met, (run_eq es).1]

end Receiver

end Rpc
