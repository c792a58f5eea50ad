import Rpc.Layer.Stock
import Rpc.Tls.Identity
import Rpc.Transport

/-! # Transports on trial

What transports are made of where both ends run on one machine: layers that share a journal, and
self-signed identities.
-/
namespace Rpc

open Layer

abbrev TrialTransport := Transport Journal Tls.Identity

namespace StackChoice

/-- Turns every connection away by its name. -/
def refusing : StackChoice Journal := fun name => .error (.rejected (name ++ " not allowed"))

/-- Never has a stack to give. -/
def broken : StackChoice Journal := fun _ => .error (.broken "no stack")

/-- The choice that goes by some name; all but three names choose the stack that was given. -/
def named (given : Option (Stack Journal)) : String → StackChoice Journal
  | "refuse" => refusing
  | "broken" => broken
  | "none" => none
  | _ => fun _ => .ok given

end StackChoice

end Rpc
