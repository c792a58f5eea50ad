import Rpc.Error
import Rpc.Message.Baggage
import Rpc.Message.Content

/-! # Layers

A layer sees the kind and the baggage of every message. On the way out it may change the baggage, on
the way in it may only look; both ways it may refuse the message. What a layer remembers or
records is a state that the layers of a stack share. A stack is walked upwards on the way out and
downwards on the way in, and the first refusal ends the walk.
-/
namespace Rpc

open Message

/-- Why a layer turns a message away: because of the message, or because of itself. -/
inductive Refusal
  | rejected (text : String)
  | broken (text : String)
  deriving DecidableEq, Repr

namespace Refusal

def message : Refusal → String
  | rejected text => "message rejected: " ++ text
  | broken text => "layer error: " ++ text

/-- The code that tells the peer of a refused request. -/
def code : Refusal → UInt32
  | rejected _ => Fault.permissionDenied
  | broken _ => Fault.internal

/-- The answer to a request whose way through the layers ends here. -/
def fault (r : Refusal) : Fault := .ofText r.code r.message

/-- What the local caller is told. -/
def callError (r : Refusal) : CallError := .layer r.code r.message

end Refusal

/-- The outcome of a way out: the verdict, the baggage as left, and the state as left. -/
structure Departure (σ : Type) where
  verdict : Except Refusal Unit
  baggage : Baggage
  state : σ

/-- The outcome of a way in. -/
structure Arrival (σ : Type) where
  verdict : Except Refusal Unit
  state : σ

structure Layer (σ : Type) where
  send : Kind → Baggage → σ → Departure σ
  receive : Kind → Baggage → σ → Arrival σ

namespace Layer

variable {σ : Type}

/-- Lets every message pass unchanged. -/
def transparent : Layer σ where
  send _ b s := ⟨.ok (), b, s⟩
  receive _ _ s := ⟨.ok (), s⟩

/-- Confines a layer to some kinds of messages; it does nothing to others. -/
def confine (applies : Kind → Bool) (l : Layer σ) : Layer σ where
  send k b s := if applies k then l.send k b s else ⟨.ok (), b, s⟩
  receive k b s := if applies k then l.receive k b s else ⟨.ok (), s⟩

/-- Walks a list of layers from its front, each on the baggage that the one before it left. -/
def sendAll : List (Layer σ) → Kind → Baggage → σ → Departure σ
  | [], _, b, s => ⟨.ok (), b, s⟩
  | l :: ls, k, b, s =>
    let d := l.send k b s
    match d.verdict with
    | .ok () => sendAll ls k d.baggage d.state
    | .error r => ⟨.error r, d.baggage, d.state⟩

/-- Shows a message to a list of layers from its front. -/
def receiveAll : List (Layer σ) → Kind → Baggage → σ → Arrival σ
  | [], _, _, s => ⟨.ok (), s⟩
  | l :: ls, k, b, s =>
    let a := l.receive k b s
    match a.verdict with
    | .ok () => receiveAll ls k b a.state
    | .error r => ⟨.error r, a.state⟩

end Layer

/-- Layers from the bottom to the top. -/
structure Stack (σ : Type) where
  layers : List (Layer σ)

namespace Stack

variable {σ : Type}

def empty : Stack σ := ⟨[]⟩

def size (s : Stack σ) : Nat := s.layers.length

def isEmpty (s : Stack σ) : Bool := s.layers.isEmpty

def append (lower upper : Stack σ) : Stack σ := ⟨lower.layers ++ upper.layers⟩

instance : Append (Stack σ) := ⟨append⟩

def send (s : Stack σ) : Kind → Baggage → σ → Departure σ := Layer.sendAll s.layers

def receive (s : Stack σ) : Kind → Baggage → σ → Arrival σ := Layer.receiveAll s.layers.reverse

def describe (s : Stack σ) : String := s!"LayerStack \x7b layers: {s.size} \x7d"

end Stack

/-- Chooses the stack of a connection by the name of the connection; a connection may go without. -/
def StackChoice (σ : Type) : Type := String → Except Refusal (Option (Stack σ))

namespace StackChoice

variable {σ : Type}

def always (s : Stack σ) : StackChoice σ := fun _ => .ok (some s)

def none : StackChoice σ := fun _ => .ok Option.none

end StackChoice

end Rpc
