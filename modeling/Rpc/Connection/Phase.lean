/-! # Phases of a connection

A connection is created, negotiates, serves, winds down and is gone; the phases stand in that
order.
-/
namespace Rpc

inductive Phase
  | created | connecting | connected | disconnecting | disconnected
  deriving DecidableEq, Repr

namespace Phase

def name : Phase → String
  | created => "created" | connecting => "connecting" | connected => "connected"
  | disconnecting => "disconnecting" | disconnected => "disconnected"

def label : Phase → String
  | created => "Created" | connecting => "Connecting" | connected => "Connected"
  | disconnecting => "Disconnecting" | disconnected => "Disconnected"

def rank : Phase → Nat
  | created => 0 | connecting => 1 | connected => 2 | disconnecting => 3 | disconnected => 4

/-- Whether the connection winds down or is gone. -/
def isOver (p : Phase) : Bool := 3 ≤ p.rank

end Phase

/-- The name that a transport gives to its `n`th connection. -/
def connectionName (n : Nat) : String := s!"conn-{n}"

end Rpc
