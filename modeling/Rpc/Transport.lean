import Rpc.Dispatch
import Rpc.Layer.Basic
import Rpc.Listener.Basic
import Rpc.Net.Endpoint
import Rpc.Net.Resolver.Basic
import Rpc.Settings
import Rpc.Tls.Policy

/-! # Transports

A transport makes connections and listeners that share its settings, layers, dispatcher and
policies. To dial an address it reads the endpoint, resolves the host and asks for layers, in this
order, before it connects to anything.
-/
namespace Rpc

open Net

structure Transport (σ κ : Type) where
  settings : Settings := {}
  «stacks» : StackChoice σ := .none
  dispatcher : Dispatcher := .absent
  resolve : String → Lookup
  clientTls : Option (Tls.ClientPolicy κ) := none
  serverTls : Option (Tls.ServerPolicy κ) := none

/-- Where a transport dials, and with which layers. -/
structure Dialing (σ : Type) where
  endpoint : Endpoint
  socket : Socket
  stack : Option (Stack σ)

namespace Transport

variable {σ κ : Type}

def describe (t : Transport σ κ) (listeners : Nat) : String :=
  t.settings.describeTransport t.clientTls.isSome t.serverTls.isSome listeners

/-- The socket behind an address. -/
def locate (t : Transport σ κ) (address : String) : Except TransportError (Endpoint × Socket) :=
  match Endpoint.parse address with
  | .error e => .error e.transportError
  | .ok e =>
    match t.resolve e.host with
    | .error l => .error (.resolution (e.host ++ ": " ++ l.message))
    | .ok ip => .ok (e, ⟨ip, e.port, 0⟩)

/-- The layers of the connection of some name. -/
def stackFor (t : Transport σ κ) (name : String) : Except TransportError (Option (Stack σ)) :=
  match t.«stacks» name with
  | .ok s => .ok s
  | .error r => .error (.layerStack (name ++ ": " ++ r.message))

def dial (t : Transport σ κ) (name address : String) : Except TransportError (Dialing σ) :=
  match t.locate address with
  | .error e => .error e
  | .ok (endpoint, socket) =>
    match t.stackFor name with
    | .error e => .error e
    | .ok stack => .ok ⟨endpoint, socket, stack⟩

/-- The policy for secure endpoints; without one of its own a transport trusts the built-in roots
and shows no certificate. -/
def clientPolicy (t : Transport σ κ) : Tls.ClientPolicy κ := t.clientTls.getD {}

def makeListener (address : String) : Except TransportError Listener :=
  match parseListenAddress address with
  | .ok a => .ok (.new a)
  | .error e => .error e.transportError

end Transport

end Rpc
