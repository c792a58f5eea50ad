import Rpc.Error
import Rpc.Net.Address

/-! # Listeners

A listener is made for an address, started once, and stopped for good. Until it is bound it reports
the address that it was made for; a port of zero asks for any.
-/
namespace Rpc

structure Listener where
  requested : Net.Socket
  bound : Option Net.Socket
  started : Bool
  stopped : Bool
  deriving DecidableEq, Repr

namespace Listener

def new (a : Net.Socket) : Listener := ⟨a, none, false, false⟩

def address (l : Listener) : Net.Socket := l.bound.getD l.requested

/-- Starts the listener; binding its address may fail. -/
def start (l : Listener) (bind : Except IoFault Net.Socket) :
    Except TransportError Net.Socket × Listener :=
  if l.stopped then (.error .connectionClosed, l)
  else if l.started then (.error (.protocol "listener already started"), l)
  else
    match bind with
    | .error fault => (.error (.io fault), { l with started := true })
    | .ok a => (.ok a, { l with started := true, bound := some a })

def stop (l : Listener) : Listener := { l with stopped := true }

/-- How a listener with some live connections shows itself. -/
def describe (l : Listener) (live : Nat) : String :=
  "Listener \x7b local_addr: " ++ l.address.display ++
    s!", connections: {live}, stopped: {l.stopped} \x7d"

inductive Event
  | start (bind : Except IoFault Net.Socket)
  | stop

/-- The listener after an event, and what start returned. -/
def step (l : Listener) : Event → Option (Except TransportError Net.Socket) × Listener
  | .start bind =>
    let r := l.start bind
    (some r.1, r.2)
  | .stop => (none, l.stop)

/-- The results of all events in order, and the listener after them. -/
def run (l : Listener) : List Event → List (Option (Except TransportError Net.Socket)) × Listener
  | [] => ([], l)
  | e :: es =>
    let r := l.step e
    let q := run r.2 es
    (r.1 :: q.1, q.2)

end Listener

end Rpc
