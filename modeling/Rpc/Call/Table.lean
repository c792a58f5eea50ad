import Rpc.Error

/-! # The table of waiting calls

The side that dialed is the client and the side that accepted is the server. A connection numbers
its conversations and keeps the numbers of those whose answer it awaits. The parity of a number
tells which side chose it, so the numbers of the two never collide. Answering a call takes its
number off the table, so a call is answered at most once. Closing the table takes all numbers off
and lets no call on it any more.
-/
namespace Rpc

inductive Side
  | client | server
  deriving DecidableEq, Repr

namespace Side

def name : Side → String
  | client => "client" | server => "server"

def firstConversation : Side → UInt64
  | client => 1 | server => 2

def peer : Side → Side
  | client => server | server => client

end Side

/-- What a waiting caller is given. -/
abbrev Reply := Except CallError Bytes

structure CallTable where
  next : UInt64
  waiting : List UInt64
  closed : Bool
  deriving DecidableEq, Repr

namespace CallTable

def new (side : Side) : CallTable := ⟨side.firstConversation, [], false⟩

/-- The number that the counter stands for. Zero belongs to control frames, so the counter steps
over it when it wraps; the step of two keeps the parity. -/
def candidate (counter : UInt64) : UInt64 := if counter = 0 then 2 else counter

/-- The first number from the counter on that no call waits under, among `tries + 1` of them. -/
def free (waiting : List UInt64) : (tries : Nat) → (counter : UInt64) → UInt64
  | 0, n => candidate n
  | t + 1, n => if candidate n ∈ waiting then free waiting t (candidate n + 2) else candidate n

/-- A number for a conversation that expects no answer. -/
def allocate (t : CallTable) : UInt64 × CallTable :=
  let n := candidate t.next
  (n, { t with next := n + 2 })

/-- Puts a fresh number on the table. Of as many numbers as calls are waiting and one more, one
is free. -/
def enter (t : CallTable) : UInt64 × CallTable :=
  let n := free t.waiting t.waiting.length t.next
  (n, { t with next := n + 2, waiting := n :: t.waiting })

/-- Takes a number off the table and tells whether it was on it. -/
def remove (t : CallTable) (n : UInt64) : Bool × CallTable :=
  (n ∈ t.waiting, { t with waiting := t.waiting.filter (· ≠ n) })

/-- A closed table takes no calls. -/
def register (t : CallTable) : Except TransportError UInt64 × CallTable :=
  if t.closed then (.error .connectionClosed, t)
  else
    let e := t.enter
    (.ok e.1, e.2)

/-- Takes all numbers off the table for good. -/
def close (t : CallTable) : CallTable := { t with waiting := [], closed := true }

def size (t : CallTable) : Nat := t.waiting.length

def describe (t : CallTable) : String :=
  s!"Multiplexer \x7b pending: {t.size}, closed: {t.closed} \x7d"

end CallTable

end Rpc
