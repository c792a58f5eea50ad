import Rpc.Proofs.Connection.Deadlines

/-! # Turned away at the door

A call whose token is cancelled, or whose deadline has passed, is turned away: its caller is told
why, and for all others the run goes on as if it had never come. No layer sees it, no number is
given out for it, nothing waits, and no frame is written. Requests are treated so on every
connection. An event of which only the deadline has passed is let in on a connection that is up, and
is sent like one without a deadline.
-/
namespace Rpc.Connection

variable {σ : Type} {p : Profile σ} {c : Connection σ} {caller : Nat} {x : CallContext} {m : Moment}

/-- What a caller is told whose token is cancelled or who comes too late. -/
def reproof (phase : Phase) (cancelled : Bool) : CallError :=
  match phase with
  | .created | .connecting => .transport (.protocol "connection not started")
  | .connected => if cancelled then .cancelled else .timeout .zero
  | .disconnecting | .disconnected => .transport .connectionClosed

variable (p c) in
/-- Whatever comes afterwards, all that an event leads to is that a caller is told of a failure. -/
def Bars (e : Event) (caller : Nat) (cause : CallError) : Prop :=
  ∀ es, run p c (e :: es) = ((run p c es).1, .ended caller (.failed cause) :: (run p c es).2)

theorem bars_iff {e : Event} {cause : CallError} :
    Bars p c e caller cause ↔ c.step p e = (c, [.ended caller (.failed cause)]) := by
  constructor
  · intro h
    have hnow := h []
    rwa [run_singleton] at hnow
  · intro h es
    rw [run, h]
    rfl

theorem gate_of_cancelled (expects : Bool) (h : x.isCancelled m = true) :
    gate c.phase expects x m = some (reproof c.phase true) := by
  unfold gate reproof
  cases c.phase <;> simp [phaseGate, h]

theorem gate_of_late (expects : Bool) (h : x.isCancelled m = false) (hlate : x.isExpired m = true)
    (hgate : c.phase = .connected → expects = true) :
    gate c.phase expects x m = some (reproof c.phase false) := by
  unfold gate reproof
  cases hphase : c.phase with
  | connected => simp [phaseGate, h, hlate, hgate hphase]
  | _ => rfl

theorem bars_of_gate {expects : Bool} {cause : CallError} (hfree : c.call? caller = none)
    (h : gate c.phase expects x m = some cause) (method : String) (payload : Bytes) :
    Bars p c (.call caller expects x m method payload) caller cause := by
  refine bars_iff.mpr ?_
  simp only [step, call, hfree, h, Option.isSome_none, Bool.false_eq_true, if_false]

/-- On a connection that is up, only the token keeps an event out. -/
theorem not_bars_of_up (hup : c.phase = .connected) (h : x.isCancelled m = false)
    (cause : CallError) (method : String) (payload : Bytes) :
    ¬ Bars p c (.call caller false x m method payload) caller cause := by
  intro hbars
  have houtputs := congrArg Prod.snd (bars_iff.mp hbars)
  have hopen : gate c.phase false x m = none := by simp [gate, phaseGate, hup, h]
  simp only [step, call, hopen] at houtputs
  split at houtputs <;> cases houtputs

/-- A bad context turns a request away on every connection, with a failure that depends on how the
connection stands and on the token alone. It turns an event away alike unless the connection is up
and the token is not cancelled: no run can tell the deadline of an event from none. -/
theorem bars_alike_iff (s : σ) (past : List Event)
    (hfree : (run p (.new p s) past).1.call? caller = none)
    (hbad : x.isCancelled m = true ∨ x.isExpired m = true) (method : String) (payload : Bytes) :
    Bars p (run p (.new p s) past).1 (.call caller true x m method payload) caller
      (reproof (run p (.new p s) past).1.phase (x.isCancelled m)) ∧
    (Bars p (run p (.new p s) past).1 (.call caller false x m method payload) caller
        (reproof (run p (.new p s) past).1.phase (x.isCancelled m)) ↔
      ¬ ((run p (.new p s) past).1.phase = .connected ∧ x.isCancelled m = false)) ∧
    ∀ es, (run p (run p (.new p s) past).1 (.call caller false x m method payload :: es)).2 =
      (run p (run p (.new p s) past).1
        (.call caller false { x with deadline := none } m method payload :: es)).2 := by
  generalize hc : (run p (.new p s) past).1 = c at hfree ⊢
  refine ⟨?_, ⟨?_, ?_⟩, fun es => ?_⟩
  · cases h : x.isCancelled m with
    | true => exact bars_of_gate hfree (gate_of_cancelled true h) method payload
    | false =>
      have hlate : x.isExpired m = true := hbad.resolve_left (by simp [h])
      exact bars_of_gate hfree (gate_of_late true h hlate fun _ => rfl) method payload
  · rintro hbars ⟨hup, h⟩
    exact not_bars_of_up hup h _ method payload hbars
  · intro hdown
    cases h : x.isCancelled m with
    | true => exact bars_of_gate hfree (gate_of_cancelled false h) method payload
    | false =>
      have hlate : x.isExpired m = true := hbad.resolve_left (by simp [h])
      exact bars_of_gate hfree (gate_of_late false h hlate fun hup => absurd ⟨hup, h⟩ hdown)
        method payload
  · rw [← hc]
    exact outputs_of_undated s past rfl

/-! ## An event that comes too late -/

def openServer : Profile Unit := ⟨.server, 200, none, false⟩

/-- A deadline that has passed, and no token. -/
def tardy : CallContext := { deadline := some 3 }

def afterwards : Moment := ⟨5, fun _ => false⟩

theorem tardyRequest_barred :
    Bars openServer (run openServer (.new openServer ()) [.start]).1
      (.call 0 true tardy afterwards "echo" [7]) 0 (.timeout .zero) ∧
    ¬ Bars openServer (run openServer (.new openServer ()) [.start]).1
      (.call 0 false tardy afterwards "echo" [7]) 0 (.timeout .zero) := by
  have hfree : (run openServer (.new openServer ()) [.start]).1.call? 0 = none := rfl
  have hbad : tardy.isCancelled afterwards = true ∨ tardy.isExpired afterwards = true :=
    Or.inr rfl
  have h := bars_alike_iff () [.start] hfree hbad "echo" [7]
  exact ⟨h.1, fun hbars => h.2.1.mp hbars ⟨rfl, rfl⟩⟩

/-- The event is let in, draws a number, and its frame is written. -/
theorem tardyEvent_sent :
    tardy.isExpired afterwards = true ∧
    (run openServer (.new openServer ()) [.start]).1.phase = .connected ∧
    (run openServer (run openServer (.new openServer ()) [.start]).1
      [.call 0 false tardy afterwards "echo" [7], .advance 0, .advance 0, .write 0]).2 =
      [.sent (.message 2 .event none (some (Archive.headingBytes ⟨"echo"⟩)) [7]), .ended 0 .sent] :=
  ⟨rfl, rfl, rfl⟩

end Rpc.Connection
