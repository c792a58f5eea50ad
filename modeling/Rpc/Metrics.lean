import Rpc.Connection.Basic

/-! # Metrics

What a transport counts, each count under a name and perhaps a label. A count is there once it has
been touched, even if it is back at zero.
-/
namespace Rpc

/-- Counts by name and label, in the order in which they were first touched. -/
structure Metrics where
  counts : List (String × Int)
  deriving DecidableEq, Repr

namespace Metrics

def empty : Metrics := ⟨[]⟩

def get? (m : Metrics) (name : String) : Option Int := m.counts.lookup name

def add (m : Metrics) (name : String) (n : Int) : Metrics :=
  match m.get? name with
  | some _ => ⟨m.counts.map fun e => if e.1 = name then (name, e.2 + n) else e⟩
  | none => ⟨m.counts ++ [(name, n)]⟩

def bySide (name : String) (side : Side) : String := name ++ "\x7bside=" ++ side.name ++ "\x7d"

def byKind (name : String) (k : Message.Kind) : String :=
  name ++ "\x7bkind=" ++ k.name ++ "\x7d"

def active (side : Side) : String := bySide "mortar_connections_active" side

def opened (m : Metrics) (side : Side) : Metrics :=
  (m.add (bySide "mortar_connections_opened_total" side) 1).add (active side) 1

def closed (m : Metrics) (side : Side) : Metrics :=
  (m.add (bySide "mortar_connections_closed_total" side) 1).add (active side) (-1)

def handshakeFailed (m : Metrics) (side : Side) : Metrics :=
  m.add (bySide "mortar_handshake_failures_total" side) 1

/-- Counts what an end of a connection does. -/
def record (m : Metrics) (side : Side) : Output → Metrics
  | .opened => m.opened side
  | .closed true => m.closed side
  | .handshakeFailed => m.handshakeFailed side
  | .sent f => m.add (byKind "mortar_frames_sent_total" f.kind) 1
  | .received k => m.add (byKind "mortar_frames_received_total" k) 1
  | .violated => m.add "mortar_protocol_errors_total" 1
  | .closed false | .started _ | .serve .. | .notify _ | .ended .. => m

/-- The counts of two parties together. -/
def merge (m n : Metrics) : Metrics := n.counts.foldl (fun m e => m.add e.1 e.2) m

end Metrics

end Rpc
