import Rpc.Connection.Pair
import Rpc.Proofs.Connection.Frames
import Rpc.Proofs.Connection.Outputs

/-! # The ends of a pair

A run of two connected ends is a run of each end: the events that reach an end lead it to the same
state, with the same outputs, as if it were alone. What an end takes in was sent by the other, in
the same order, each frame once.
-/
namespace Rpc

namespace Travelling

def frame? : Travelling → Option Frame
  | .frame f => some f
  | .ended => none

theorem frames_ofOutputs (outputs : List Output) :
    (ofOutputs outputs).filterMap frame? = outputs.filterMap Output.frame? := by
  rw [ofOutputs, List.filterMap_filterMap]
  refine List.filterMap_congr fun o _ => ?_
  cases o <;> rfl

end Travelling

def PairProfile.of {σ : Type} (p : PairProfile σ) : Side → Profile σ
  | .client => p.client
  | .server => p.server

namespace Pair

variable {σ : Type}

def of (pair : Pair σ) : Side → Connection σ
  | .client => pair.client
  | .server => pair.server

/-- What is on its way to one end. -/
def inbound (pair : Pair σ) : Side → List Travelling
  | .client => pair.toClient
  | .server => pair.toServer

variable (p : PairProfile σ) (side : Side)

/-- What an event is to one end; an event of the other end is nothing. -/
def eventAt (pair : Pair σ) : Event → List Rpc.Event
  | .own _ (.arrive _) => []
  | .own s e => if s = side then [e] else []
  | .arrive s =>
    if s = side then
      match pair.inbound side with
      | piece :: _ =>
        if (pair.of side).loop.isReady then [.arrive (piece.arriving (p.of side).limit)] else []
      | [] => []
    else []

/-- The events of a run that reach one end. -/
def eventsAt (pair : Pair σ) : List Event → List Rpc.Event
  | [] => []
  | e :: es => pair.eventAt p side e ++ eventsAt (pair.step p e).1 es

variable {p side} {pair : Pair σ}

theorem act_self (pair : Pair σ) (side : Side) (e : Rpc.Event) : (pair.act p side e).1.of side =
      ((pair.of side).step (p.of side) e).1 ∧
    (pair.act p side e).2 = ((pair.of side).step (p.of side) e).2.map (side, ·) ∧
    (pair.act p side e).1.inbound side = pair.inbound side := by
  cases side <;> exact ⟨rfl, rfl, rfl⟩

theorem act_peer (pair : Pair σ) (side : Side) (e : Rpc.Event) :
    (pair.act p side e).1.of side.peer = pair.of side.peer ∧
    (pair.act p side e).1.inbound side.peer = pair.inbound side.peer ++
      Travelling.ofOutputs ((pair.of side).step (p.of side) e).2 := by
  cases side <;> exact ⟨rfl, rfl⟩

/-- A piece that is taken in is the first on its way; otherwise nothing happens. -/
theorem receive_cases (pair : Pair σ) (side : Side) :
    (pair.receive p side = (pair, []) ∧ pair.eventAt p side (.arrive side) = []) ∨
    ∃ piece rest, ∃ taken : Pair σ, pair.inbound side = piece :: rest ∧
      taken.of side = pair.of side ∧ taken.of side.peer = pair.of side.peer ∧
      taken.inbound side = rest ∧ taken.inbound side.peer = pair.inbound side.peer ∧
      pair.receive p side = taken.act p side (.arrive (piece.arriving (p.of side).limit)) ∧
      pair.eventAt p side (.arrive side) = [.arrive (piece.arriving (p.of side).limit)] := by
  cases side with
  | client =>
    simp only [receive, eventAt, inbound, if_true]
    cases hin : pair.toClient with
    | nil => exact Or.inl ⟨rfl, rfl⟩
    | cons piece rest =>
      by_cases hready : pair.client.loop.isReady
      · refine Or.inr ⟨piece, rest, { pair with toClient := rest }, rfl, rfl, rfl, rfl, rfl, ?_, ?_⟩
        · exact if_pos hready
        · exact if_pos hready
      · exact Or.inl ⟨if_neg hready, if_neg hready⟩
  | server =>
    simp only [receive, eventAt, inbound, if_true]
    cases hin : pair.toServer with
    | nil => exact Or.inl ⟨rfl, rfl⟩
    | cons piece rest =>
      by_cases hready : pair.server.loop.isReady
      · refine Or.inr ⟨piece, rest, { pair with toServer := rest }, rfl, rfl, rfl, rfl, rfl, ?_, ?_⟩
        · exact if_pos hready
        · exact if_pos hready
      · exact Or.inl ⟨if_neg hready, if_neg hready⟩

theorem peer_peer (side : Side) : side.peer.peer = side := by cases side <;> rfl

theorem eq_or_eq_peer (s side : Side) : s = side ∨ s = side.peer := by
  cases s <;> cases side <;> simp [Side.peer]

theorem peer_ne (side : Side) : side.peer ≠ side := by cases side <;> simp [Side.peer]

def outputsAt (side : Side) (outputs : List (Side × Output)) : List Output :=
  outputs.filterMap fun o => if o.1 = side then some o.2 else none

theorem outputsAt_self (side : Side) (outputs : List Output) :
    outputsAt side (outputs.map (side, ·)) = outputs := by
  simp [outputsAt, List.filterMap_map]

theorem outputsAt_peer (side : Side) (outputs : List Output) :
    outputsAt side (outputs.map (side.peer, ·)) = [] := by
  simp [outputsAt, List.filterMap_map, peer_ne]

/-- What a step does at one end and on the way to it. -/
structure StepsAt (p : PairProfile σ) (side : Side) (pair : Pair σ) (e : Event) : Prop where
  state : (pair.step p e).1.of side =
    ((pair.of side).run (p.of side) (pair.eventAt p side e)).1
  outputs : outputsAt side (pair.step p e).2 =
    ((pair.of side).run (p.of side) (pair.eventAt p side e)).2
  frames : List.Sublist
    (((pair.of side).trail (p.of side) (Connection.takes (p.of side)) (pair.eventAt p side e)).map
        Prod.fst ++ ((pair.step p e).1.inbound side).filterMap Travelling.frame?)
    ((pair.inbound side).filterMap Travelling.frame? ++
      (outputsAt side.peer (pair.step p e).2).filterMap Output.frame?)

/-- An end to which nothing happens, while its peer may send something. -/
theorem stepsAt_idle {e : Event} (he : pair.eventAt p side e = [])
    (hstate : (pair.step p e).1.of side = pair.of side)
    (houtputs : outputsAt side (pair.step p e).2 = [])
    (hinbound : (pair.step p e).1.inbound side = pair.inbound side ++
      Travelling.ofOutputs (outputsAt side.peer (pair.step p e).2)) : StepsAt p side pair e where
  state := by rw [he]; exact hstate
  outputs := by rw [he]; exact houtputs
  frames := by
    rw [he, hinbound, List.filterMap_append, Travelling.frames_ofOutputs]
    exact List.Sublist.refl _

theorem takes_of_ne_arrive {q : Profile σ} {c : Connection σ} {e : Rpc.Event}
    (he : ∀ incoming, e ≠ .arrive incoming) : c.takes q e = [] := by
  cases e with
  | arrive incoming => exact absurd rfl (he incoming)
  | _ => rfl

theorem stepsAt_act {s : Side} {e : Rpc.Event} (he : ∀ incoming, e ≠ .arrive incoming) :
    StepsAt p side pair (.own s e) := by
  have hstep : pair.step p (.own s e) = pair.act p s e := by
    cases e with
    | arrive incoming => exact absurd rfl (he incoming)
    | _ => rfl
  have hevent : pair.eventAt p side (.own s e) = if s = side then [e] else [] := by
    cases e with
    | arrive incoming => exact absurd rfl (he incoming)
    | _ => rfl
  rcases eq_or_eq_peer s side with rfl | rfl
  · obtain ⟨hstate, houtputs, hinbound⟩ := act_self (p := p) pair s e
    rw [if_pos rfl] at hevent
    refine ⟨?_, ?_, ?_⟩
    · rw [hstep, hevent, Connection.run_singleton, hstate]
    · rw [hstep, hevent, Connection.run_singleton, houtputs, outputsAt_self]
    · rw [hstep, hevent, Connection.trail_singleton, takes_of_ne_arrive he, hinbound]
      exact List.sublist_append_left _ _
  · obtain ⟨hstate, hinbound⟩ := act_peer (p := p) pair side.peer e
    have houtputs := (act_self (p := p) pair side.peer e).2.1
    rw [peer_peer] at hstate hinbound
    rw [if_neg (peer_ne side)] at hevent
    refine stepsAt_idle hevent ?_ ?_ ?_
    · rw [hstep, hstate]
    · rw [hstep, houtputs, outputsAt_peer]
    · rw [hstep, houtputs, outputsAt_self, hinbound]

/-- What is taken in of a piece is its frame, or nothing. -/
theorem takes_arriving (q : Profile σ) (c : Connection σ) (piece : Travelling) (limit : Nat) :
    List.Sublist ((c.takes q (.arrive (piece.arriving limit))).map Prod.fst)
      piece.frame?.toList := by
  cases piece with
  | frame f =>
    simp only [Travelling.arriving]
    split
    · by_cases hl : c.loop = .reading
      · rw [Connection.takes_frame hl]
        exact List.Sublist.refl _
      · rw [Connection.takes_of_ne_reading hl]
        exact List.nil_sublist _
    · exact List.nil_sublist _
  | ended => exact List.nil_sublist _

theorem stepsAt_arrive (s : Side) : StepsAt p side pair (.arrive s) := by
  rcases eq_or_eq_peer s side with rfl | rfl
  · rcases receive_cases (p := p) pair s with
      ⟨hstep, hevent⟩ | ⟨piece, rest, taken, hin, hof, -, hrest, -, hstep, hevent⟩
    · change pair.step p (.arrive s) = (pair, []) at hstep
      refine stepsAt_idle hevent ?_ ?_ ?_
      · rw [hstep]
      · rw [hstep]
        rfl
      · rw [hstep]
        exact (List.append_nil _).symm
    · change pair.step p (.arrive s) = _ at hstep
      obtain ⟨hstate, houtputs, hinbound⟩ := act_self (p := p) taken s
        (.arrive (piece.arriving (p.of s).limit))
      rw [hof] at hstate houtputs
      refine ⟨?_, ?_, ?_⟩
      · rw [hstep, hevent, Connection.run_singleton, hstate]
      · rw [hstep, hevent, Connection.run_singleton, houtputs, outputsAt_self]
      · rw [hstep, hevent, Connection.trail_singleton, hinbound, hrest, hin, List.filterMap_cons]
        have htakes := takes_arriving (p.of s) (pair.of s) piece (p.of s).limit
        refine List.Sublist.trans ?_ (List.sublist_append_left _ _)
        cases hframe : piece.frame? with
        | none =>
          rw [hframe] at htakes
          rw [List.sublist_nil.mp htakes]
          exact List.Sublist.refl _
        | some f =>
          rw [hframe] at htakes
          exact htakes.append_right _
  · rcases receive_cases (p := p) pair side.peer with
      ⟨hstep, -⟩ | ⟨piece, rest, taken, -, -, hof, -, hrest, hstep, -⟩
    · change pair.step p (.arrive side.peer) = (pair, []) at hstep
      have hevent : pair.eventAt p side (.arrive side.peer) = [] := if_neg (peer_ne side)
      refine stepsAt_idle hevent ?_ ?_ ?_
      · rw [hstep]
      · rw [hstep]
        rfl
      · rw [hstep]
        exact (List.append_nil _).symm
    · change pair.step p (.arrive side.peer) = _ at hstep
      have hevent : pair.eventAt p side (.arrive side.peer) = [] := if_neg (peer_ne side)
      obtain ⟨hstate, hinbound⟩ := act_peer (p := p) taken side.peer
        (.arrive (piece.arriving (p.of side.peer).limit))
      have houtputs := (act_self (p := p) taken side.peer
        (.arrive (piece.arriving (p.of side.peer).limit))).2.1
      rw [peer_peer] at hstate hinbound hof hrest
      refine stepsAt_idle hevent ?_ ?_ ?_
      · rw [hstep, hstate, hof]
      · rw [hstep, houtputs, outputsAt_peer]
      · rw [hstep, houtputs, outputsAt_self, hinbound, hrest]

theorem stepsAt (pair : Pair σ) (side : Side) (e : Event) : StepsAt p side pair e := by
  cases e with
  | own s e =>
    cases e with
    | arrive incoming =>
      exact stepsAt_idle rfl rfl rfl (List.append_nil _).symm
    | _ => exact stepsAt_act (by simp)
  | arrive s => exact stepsAt_arrive s

/-- A run of the pair is a run of each end. -/
theorem run_of (pair : Pair σ) (side : Side) (es : List Event) :
    (run p pair es).1.of side = ((pair.of side).run (p.of side) (pair.eventsAt p side es)).1 ∧
      outputsAt side (run p pair es).2 =
        ((pair.of side).run (p.of side) (pair.eventsAt p side es)).2 := by
  induction es generalizing pair with
  | nil => exact ⟨rfl, rfl⟩
  | cons e es ih =>
    obtain ⟨hstate, houtputs, -⟩ := stepsAt (p := p) pair side e
    obtain ⟨ihstate, ihoutputs⟩ := ih (pair.step p e).1
    rw [hstate] at ihstate ihoutputs
    rw [eventsAt, Connection.run_append]
    refine ⟨ihstate, ?_⟩
    rw [← houtputs, ← ihoutputs]
    simp only [run, outputsAt, List.filterMap_append]

/-- What an end takes in and what is still on its way to it was on its way before or was sent by the
other end since. -/
theorem takes_sublist (pair : Pair σ) (side : Side) (es : List Event) :
    List.Sublist
      (((pair.of side).trail (p.of side) (Connection.takes (p.of side))
          (pair.eventsAt p side es)).map Prod.fst ++
        ((run p pair es).1.inbound side).filterMap Travelling.frame?)
      ((pair.inbound side).filterMap Travelling.frame? ++
        (outputsAt side.peer (run p pair es).2).filterMap Output.frame?) := by
  induction es generalizing pair with
  | nil =>
    rw [show (run p pair []).2 = [] from rfl]
    simp [eventsAt, Connection.trail, run, outputsAt]
  | cons e es ih =>
    obtain ⟨hstate, -, hframes⟩ := stepsAt (p := p) pair side e
    have hrest := ih (pair.step p e).1
    rw [hstate] at hrest
    rw [eventsAt, Connection.trail_append, List.map_append, List.append_assoc]
    have houtputs : (outputsAt side.peer (run p pair (e :: es)).2).filterMap Output.frame? =
        (outputsAt side.peer (pair.step p e).2).filterMap Output.frame? ++
          (outputsAt side.peer (run p (pair.step p e).1 es).2).filterMap Output.frame? := by
      simp only [run, outputsAt, List.filterMap_append]
    rw [houtputs, ← List.append_assoc]
    have hfirst := hrest.append_left
      (((pair.of side).trail (p.of side) (Connection.takes (p.of side))
        (pair.eventAt p side e)).map Prod.fst)
    rw [← List.append_assoc, ← List.append_assoc] at hfirst
    rw [← List.append_assoc]
    exact hfirst.trans (hframes.append_right _)

end Pair

end Rpc
