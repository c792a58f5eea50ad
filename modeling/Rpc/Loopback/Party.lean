import Rpc.Connection.Pair
import Rpc.Metrics

/-! # Parties

A party is one end of a connection together with its application. It runs eagerly: callers go on as
far as they can, frames are written as soon as they are built, and requests are answered as the
dispatcher says. What others can see of it is kept until somebody looks.
-/
namespace Rpc

open Message

structure Heard where
  isRequest : Bool
  delivery : Delivery

/-- What a caller wants: a call under a tag. -/
structure Errand where
  tag : String
  expectsAnswer : Bool
  method : String
  payload : Bytes
  baggage : Baggage := .empty
  cancelled : Bool := false
  patience : Option Span := none

structure Party (σ : Type) where
  profile : Profile σ
  dispatcher : Dispatcher
  connection : Connection σ
  /-- The handlers that hold a request, with its payload. -/
  held : List (Nat × Bytes) := []
  heard : List Heard := []
  written : List Travelling := []
  ended : List (Nat × Ending) := []
  started : Option (Except TransportError Unit) := none
  metrics : Metrics := .empty

namespace Party

variable {σ : Type}

def new (p : Profile σ) (d : Dispatcher) (s : σ) (m : Metrics) : Party σ where
  profile := p
  dispatcher := d
  connection := .new p s
  metrics := m

def hear (q : Party σ) (h : Heard) : Party σ :=
  if q.dispatcher.logs then { q with heard := q.heard ++ [h] } else q

def serve (q : Party σ) (handler : Nat) (d : Delivery) : Party σ :=
  let q := q.hear ⟨true, d⟩
  match q.dispatcher.handle d with
  | .answer result => { q with connection := (q.connection.answer q.profile handler result).1 }
  | .hold => { q with held := q.held ++ [(handler, d.payload)] }

/-- What an output means to the application and to those who watch. -/
def absorb (q : Party σ) (o : Output) : Party σ :=
  let q := { q with
    metrics := q.metrics.record q.profile.side o
    written := q.written ++ Travelling.ofOutputs [o] }
  match o with
  | .serve handler _ d => q.serve handler d
  | .notify d => q.hear ⟨false, d⟩
  | .ended caller ending => { q with ended := q.ended ++ [(caller, ending)] }
  | .started result => { q with started := some result }
  | _ => q

def perform (q : Party σ) (e : Event) : Party σ :=
  let s := q.connection.step q.profile e
  s.2.foldl absorb { q with connection := s.1 }

def advance (q : Party σ) : Party σ :=
  q.connection.calls.foldl (fun q k => q.perform (.advance k.1)) q

def write (q : Party σ) : Party σ :=
  q.connection.writers.foldl (fun q w => q.perform (.write w.1)) q

/-- Lets everything happen that waits for nobody else. A call takes two steps to its frame and one
more once that has been written. -/
def settle (q : Party σ) : Party σ := q.advance.advance.write.advance

def act (q : Party σ) (e : Event) : Party σ := (q.perform e).settle

def receive (q : Party σ) (piece : Incoming) : Party σ := q.act (.arrive piece)

/-- What a caller with an errand brings along. Its caller number is also the name of its token. -/
def contextOf (caller : Nat) (e : Errand) (m : Moment) : Option CallContext :=
  let context : CallContext := ⟨none, some caller, e.baggage⟩
  match e.patience with
  | some span => context.withTimeout m span
  | none => some context

/-- A caller comes with an errand at instant zero; without a context it does not get to call. -/
def call (q : Party σ) (caller : Nat) (e : Errand) : Party σ :=
  let moment : Moment := ⟨0, fun _ => e.cancelled⟩
  match contextOf caller e moment with
  | some context => q.act (.call caller e.expectsAnswer context moment e.method e.payload)
  | none => q

/-- A held request with some payload is answered; tells whether there was one. -/
def release (q : Party σ) (payload : Bytes) : Bool × Party σ :=
  match q.held.find? (·.2 = payload) with
  | some (handler, _) =>
    (true, { q with held := q.held.filter (·.1 ≠ handler) }.act (.answer handler (.ok payload)))
  | none => (false, q)

def seen (q : Party σ) : Party σ := { q with heard := [], ended := [] }

def emptied (q : Party σ) : Party σ := { q with written := [] }

end Party

end Rpc
