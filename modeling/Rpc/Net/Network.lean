import Rpc.Error
import Rpc.Net.Address

/-! # What a machine can reach

A machine binds addresses of its own, no two sockets to where both would listen; a port of zero
stands for one that is free. On an isolated machine no connection comes about, not even to itself.
-/
namespace Rpc.Net

namespace Ip

/-- The short address that a long one only wraps. -/
def unwrapped : Ip → Ip
  | v4 ip => v4 ip
  | v6 ip =>
    match ip.groups with
    | [0, 0, 0, 0, 0, 0xffff, g, h] =>
      v4 ⟨(g / 256).toUInt8, g.toUInt8, (h / 256).toUInt8, h.toUInt8⟩
    | _ => v6 ip

/-- Stands for all addresses of the machine, a short one only for short addresses. -/
def isAny : Ip → Bool
  | v4 ip => ip = ⟨0, 0, 0, 0⟩
  | v6 ip => ip.groups.all (· = 0)

def isLoopback : Ip → Bool
  | v4 ip => ip.a = 127
  | v6 ip => ip.groups = [0, 0, 0, 0, 0, 0, 0, 1]

/-- Stands for several machines at once. -/
def isShared : Ip → Bool
  | v4 ip => (224 ≤ ip.a && ip.a < 240) || ip = ⟨255, 255, 255, 255⟩
  | v6 _ => false

def isShort : Ip → Bool
  | v4 _ => true
  | v6 _ => false

/-- Who listens at the first address is found at the second. -/
def covers (bound a : Ip) : Bool :=
  bound.unwrapped = a.unwrapped ||
    (bound.unwrapped.isAny && (a.unwrapped.isShort || !bound.unwrapped.isShort))

end Ip

def Socket.serves (bound a : Socket) : Bool := bound.port = a.port && bound.ip.covers a.ip

inductive Network
  | isolated
  /-- The machine reaches itself and nothing else. -/
  | loopback
  deriving DecidableEq, Repr

namespace Network

/-- The addresses at which a machine lets somebody listen. Without any device the short ones are
not looked at. -/
def offers (n : Network) (ip : Ip) : Bool :=
  match n with
  | .isolated => ip.unwrapped.isShort || ip.isAny
  | .loopback => ip.unwrapped.isAny || ip.unwrapped.isLoopback || ip.unwrapped.isShared

def firstFreePort : Nat := 49152

/-- The first port to be given out that no socket has had. -/
def freePort (past : List Socket) : UInt16 :=
  let candidates := (List.range (past.length + 1)).map fun k => UInt16.ofNat (firstFreePort + k)
  (candidates.find? fun port => past.all (·.port ≠ port)).getD 0

/-- Binds an address beside the sockets on which somebody listens; there may have been others. -/
def bind (n : Network) (past listening : List Socket) (a : Socket) : Except IoFault Socket :=
  if !n.offers a.ip then .error ⟨.other, "address not available"⟩
  else if a.port = 0 then .ok ⟨a.ip, freePort past, 0⟩
  else if listening.any fun b => b.serves a || a.serves b then .error ⟨.other, "address in use"⟩
  else .ok { a with scope := 0 }

/-- Connects to one of the sockets on which somebody listens, and tells which. -/
def connect (n : Network) (listening : List Socket) (a : Socket) :
    Except TransportError Socket :=
  match n, listening.find? (·.serves a) with
  | .loopback, some bound => .ok bound
  | .loopback, none => .error (.connectionFailed (a.display ++ ": connection refused"))
  | .isolated, _ => .error (.connectionFailed (a.display ++ ": network is unreachable"))

end Network

end Rpc.Net
