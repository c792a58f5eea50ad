import Rpc.Connection.Step

/-! # Two ends of one connection

A client and a server with what travels between them. Frames arrive in the order in which they were
written, each way on its own, at any later time; behind the last one comes the end of the stream. A
frame that is too large for its receiver arrives as an error.
-/
namespace Rpc

inductive Travelling
  | frame (f : Frame)
  | ended

namespace Travelling

/-- What the outputs of an end put on the way. -/
def ofOutputs (outputs : List Output) : List Travelling :=
  outputs.filterMap fun
    | .sent f => some (.frame f)
    | .closed _ => some .ended
    | _ => none

/-- What a receiver with some limit finds. -/
def arriving (limit : Nat) : Travelling → Incoming
  | .frame f =>
    if f.bodySize ≤ limit then .frame f else .malformed (.frameTooLarge f.bodySize limit)
  | .ended => .ended

end Travelling

structure Pair (σ : Type) where
  client : Connection σ
  server : Connection σ
  toServer : List Travelling
  toClient : List Travelling

structure PairProfile (σ : Type) where
  client : Profile σ
  server : Profile σ

namespace Pair

variable {σ : Type}

inductive Event
  /-- Something happens on one end, other than an arrival. -/
  | own (side : Side) (event : Rpc.Event)
  | arrive (side : Side)

def new (p : PairProfile σ) (s : σ) : Pair σ := ⟨.new p.client s, .new p.server s, [], []⟩

/-- One end does something, and what it writes goes on its way. -/
def act (p : PairProfile σ) (pair : Pair σ) (side : Side) (event : Rpc.Event) :
    Pair σ × List (Side × Output) :=
  match side with
  | .client =>
    let q := pair.client.step p.client event
    ({ pair with client := q.1, toServer := pair.toServer ++ Travelling.ofOutputs q.2 },
      q.2.map (.client, ·))
  | .server =>
    let q := pair.server.step p.server event
    ({ pair with server := q.1, toClient := pair.toClient ++ Travelling.ofOutputs q.2 },
      q.2.map (.server, ·))

/-- A piece arrives if one is under way and the receive loop is ready for it. -/
def receive (p : PairProfile σ) (pair : Pair σ) (side : Side) : Pair σ × List (Side × Output) :=
  match side with
  | .client =>
    match pair.toClient with
    | piece :: rest =>
      if pair.client.loop.isReady then
        act p { pair with toClient := rest } .client (.arrive (piece.arriving p.client.limit))
      else (pair, [])
    | [] => (pair, [])
  | .server =>
    match pair.toServer with
    | piece :: rest =>
      if pair.server.loop.isReady then
        act p { pair with toServer := rest } .server (.arrive (piece.arriving p.server.limit))
      else (pair, [])
    | [] => (pair, [])

def step (p : PairProfile σ) (pair : Pair σ) : Event → Pair σ × List (Side × Output)
  | .own _ (.arrive _) => (pair, [])
  | .own side event => act p pair side event
  | .arrive side => pair.receive p side

/-- The state after some events, and the outputs of both ends in order. -/
def run (p : PairProfile σ) (pair : Pair σ) : List Event → Pair σ × List (Side × Output)
  | [] => (pair, [])
  | e :: es =>
    let q := pair.step p e
    let rest := run p q.1 es
    (rest.1, q.2 ++ rest.2)

end Pair

end Rpc
