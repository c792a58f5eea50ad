import Rpc.Connection.Step

/-! # Octets in, pieces out

The peer sends octets in chunks of any size. They gather until a whole frame is there, and the
receive loop takes in one piece at a time, whenever it is ready to.
-/
namespace Rpc

/-- The octets that have arrived and not been taken in, and whether more can come. -/
structure Intake where
  buffer : Bytes
  ended : Bool

namespace Intake

def empty : Intake := ⟨[], false⟩

def feed (i : Intake) (chunk : Bytes) : Intake :=
  if i.ended then i else { i with buffer := i.buffer ++ chunk }

def finish (i : Intake) : Intake := { i with ended := true }

/-- The next piece, and what remains. -/
def next? (limit : Nat) (i : Intake) : Option (Incoming × Intake) :=
  match Frame.read limit i.buffer with
  | .frame f rest => some (.frame f, { i with buffer := rest })
  | .refused e rest => some (.malformed e, { i with buffer := rest })
  | .stuck e => some (.malformed e, i)
  | .incomplete =>
    if !i.ended then none
    else if i.buffer.isEmpty then some (.ended, i)
    else some (.broken .cutFrame, i)

end Intake

structure Receiver (σ : Type) where
  connection : Connection σ
  intake : Intake

namespace Receiver

variable {σ : Type}

inductive Event
  | feed (chunk : Bytes)
  | finish
  /-- The receive loop takes in the next piece. -/
  | take
  | own (event : Rpc.Event)

def new (p : Profile σ) (s : σ) : Receiver σ := ⟨.new p s, .empty⟩

def take (r : Receiver σ) (p : Profile σ) : Receiver σ × List Output :=
  if r.connection.loop.isReady then
    match r.intake.next? p.limit with
    | some (piece, intake) =>
      let q := r.connection.step p (.arrive piece)
      (⟨q.1, intake⟩, q.2)
    | none => (r, [])
  else (r, [])

def step (p : Profile σ) (r : Receiver σ) : Event → Receiver σ × List Output
  | .feed chunk => ({ r with intake := r.intake.feed chunk }, [])
  | .finish => ({ r with intake := r.intake.finish }, [])
  | .take => r.take p
  | .own (.arrive _) => (r, [])
  | .own event =>
    let q := r.connection.step p event
    ({ r with connection := q.1 }, q.2)

def run (p : Profile σ) (r : Receiver σ) : List Event → Receiver σ × List Output
  | [] => (r, [])
  | e :: es =>
    let q := r.step p e
    let rest := run p q.1 es
    (rest.1, q.2 ++ rest.2)

end Receiver

end Rpc
