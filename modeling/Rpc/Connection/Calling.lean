import Rpc.Connection.Basic

/-! # Calls

A call is checked at the door, gets a number, becomes a frame, and, if it is a request, waits. It
ends with an answer, with a failure, or when its caller gives up; then nothing of it stays on the
table. A frame that a writer holds is written all the same.
-/
namespace Rpc.Connection

open Message

variable {σ : Type}

/-- Calls go through a connection that is up only. -/
def phaseGate : Phase → Option CallError
  | .connected => none
  | .created | .connecting => some (.transport (.protocol "connection not started"))
  | .disconnecting | .disconnected => some (.transport .connectionClosed)

/-- The checks before a call: the state of the connection, the token, and for a request the
deadline. -/
def gate (phase : Phase) (expectsAnswer : Bool) (x : CallContext) (m : Moment) : Option CallError :=
  match phaseGate phase with
  | some cause => some cause
  | none =>
    if x.isCancelled m then some .cancelled
    else if expectsAnswer && x.isExpired m then some (.timeout .zero)
    else none

/-- A caller comes with a call; a number that is in use is ignored. -/
def call (c : Connection σ) (caller : Nat) (expectsAnswer : Bool) (x : CallContext) (m : Moment)
    (method : String) (payload : Bytes) : Progress σ :=
  if (c.call? caller).isSome then (c, [])
  else
    match gate c.phase expectsAnswer x m with
    | some cause => (c, [.ended caller (.failed cause)])
    | none =>
      let k : Call := ⟨expectsAnswer, x, method, payload, m.now, .admitted, none⟩
      ({ c with calls := c.calls ++ [(caller, k)] }, [])

def number (c : Connection σ) (caller : Nat) (k : Call) : Progress σ :=
  if k.expectsAnswer then
    let r := c.table.register
    match r.1 with
    | .error e => { c with table := r.2 }.finish caller (.failed (.transport e))
    | .ok n => ({ c with table := r.2 }.setStage caller (.numbered n), [])
  else
    let r := c.table.allocate
    ({ c with table := r.2 }.setStage caller (.numbered r.1), [])

def frame (c : Connection σ) (p : Profile σ) (caller : Nat) (k : Call) (n : UInt64) : Progress σ :=
  let kind := if k.expectsAnswer then Kind.request else Kind.event
  let built := messageFrame p.stack n kind k.context.baggage (some k.method) k.payload
    c.surroundings
  let c := { c with surroundings := built.2 }
  match built.1 with
  | .error e => c.finish caller (.failed e)
  | .ok f =>
    match c.enqueue p (.call caller n) f with
    | .error e => c.finish caller (.failed (.codec e))
    | .ok c => (c.setStage caller (.writing n), [])

/-- The next thing that a caller does by itself. -/
def advance (c : Connection σ) (p : Profile σ) (caller : Nat) : Progress σ :=
  match c.call? caller with
  | none => (c, [])
  | some k =>
    match k.stage with
    | .admitted => c.number caller k
    | .numbered n => c.frame p caller k n
    | .writing _ => (c, [])
    | .awaiting _ =>
      match k.inbox with
      | none => (c, [])
      | some (.ok payload) => c.finish caller (.answered payload)
      | some (.error e) => c.finish caller (.failed e)

def waited (k : Call) : Span :=
  match k.context.deadline with
  | some d => d.since k.started
  | none => .zero

def expire (c : Connection σ) (caller : Nat) : Progress σ :=
  match c.call? caller with
  | some k =>
    match k.stage, k.context.deadline with
    | .awaiting _, some _ => c.finish caller (.failed (.timeout (waited k)))
    | _, _ => (c, [])
  | none => (c, [])

def cancel (c : Connection σ) (caller : Nat) : Progress σ :=
  match c.call? caller with
  | some k =>
    match k.stage, k.context.token with
    | .awaiting _, some _ => c.finish caller (.failed .cancelled)
    | _, _ => (c, [])
  | none => (c, [])

/-- The caller goes away, and nobody hears of the call again. -/
def abandon (c : Connection σ) (caller : Nat) : Progress σ := (c.forget caller, [])

end Rpc.Connection
