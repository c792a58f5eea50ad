import Rpc.Call.Context
import Rpc.Call.Table
import Rpc.Connection.Incoming
import Rpc.Connection.Outgoing
import Rpc.Connection.Phase

/-! # Connections

The state of one end of a connection between two waits of its tasks. Callers bring their calls and
wait for answers, handlers work on requests of the peer, writers hold encoded frames until they
get the stream, and one receive loop takes in what arrives. Callers, handlers and writers go by
numbers. What an end does that others can see is told as outputs.
-/
namespace Rpc

open Message

structure Profile (σ : Type) where
  side : Side
  limit : Nat
  stack : Option (Stack σ)
  /-- The server asked this client for a certificate, which it does not have. -/
  certificateMissing : Bool := false

inductive Stage
  | admitted
  | numbered (n : UInt64)
  /-- Its frame waits for the stream. -/
  | writing (n : UInt64)
  | awaiting (n : UInt64)
  deriving DecidableEq

structure Call where
  expectsAnswer : Bool
  context : CallContext
  method : String
  payload : Bytes
  started : Instant
  stage : Stage
  /-- The answer that has come and that the caller has not looked at. -/
  inbox : Option Reply := none

def Call.number? (k : Call) : Option UInt64 :=
  match k.expectsAnswer, k.stage with
  | true, .numbered n | true, .writing n | true, .awaiting n => some n
  | _, _ => none

/-- A reply to some numbers reaches a call under one of them that has none yet. -/
def Call.receive (under : UInt64 → Bool) (reply : Reply) (k : Call) : Call :=
  match k.number?, k.inbox with
  | some n, none => if under n then { k with inbox := some reply } else k
  | _, _ => k

/-- Why a frame is written, that is, what happens afterwards. The receive loop waits until its
greeting back or the answer to a request it turned down is out, and leaves after a violation. -/
inductive Purpose
  | call (caller : Nat) (n : UInt64)
  | answer
  | greeting
  | greetingBack
  | turnDown
  | violation
  | farewell
  deriving DecidableEq

structure Writer where
  purpose : Purpose
  frame : Frame

/-- The receive loop of a client first writes a greeting and waits for that of the server. It pauses
while a frame of its own is written. -/
inductive Loop
  | unstarted
  | greeting
  | greeted
  | reading
  | paused
  | over
  deriving DecidableEq

def Loop.isReady : Loop → Bool
  | .greeted | .reading => true
  | _ => false

structure Connection (σ : Type) where
  phase : Phase
  shut : Bool
  table : CallTable
  calls : List (Nat × Call)
  /-- The handlers at work, with the conversations that they answer. -/
  serving : List (Nat × UInt64)
  writers : List (Nat × Writer)
  loop : Loop
  nextHandler : Nat
  nextWriter : Nat
  surroundings : σ

inductive Ending
  | answered (payload : Bytes)
  | sent
  | failed (cause : CallError)

inductive Output
  | opened
  | handshakeFailed
  | started (result : Except TransportError Unit)
  | received (k : Kind)
  | sent (f : Frame)
  | serve (handler : Nat) (n : UInt64) (d : Delivery)
  | notify (d : Delivery)
  | ended (caller : Nat) (ending : Ending)
  | violated
  | closed (wasUp : Bool)

abbrev Progress (σ : Type) := Connection σ × List Output

namespace Progress

variable {σ : Type}

def andThen (p : Progress σ) (f : Connection σ → Progress σ) : Progress σ :=
  let q := f p.1
  (q.1, p.2 ++ q.2)

end Progress

namespace Connection

variable {σ : Type}

def new (p : Profile σ) (s : σ) : Connection σ where
  phase := .created
  shut := false
  table := .new p.side
  calls := []
  serving := []
  writers := []
  loop := .unstarted
  nextHandler := 0
  nextWriter := 0
  surroundings := s

def pending (c : Connection σ) : Nat := c.table.size

def call? (c : Connection σ) (caller : Nat) : Option Call := c.calls.lookup caller

def setStage (c : Connection σ) (caller : Nat) (stage : Stage) : Connection σ :=
  { c with calls := c.calls.map fun e => if e.1 = caller then (e.1, { e.2 with stage }) else e }

def deliver (c : Connection σ) (under : UInt64 → Bool) (reply : Reply) : Connection σ :=
  { c with calls := c.calls.map fun e => (e.1, e.2.receive under reply) }

/-- Takes a number off the table and hands its call a reply; nobody is told of a reply that no
call waits for. -/
def resolve (c : Connection σ) (n : UInt64) (reply : Reply) : Connection σ :=
  let r := c.table.remove n
  if r.1 then { c with table := r.2 }.deliver (· = n) reply else c

/-- Forgets a call and takes its number off the table. If the numbers have come round and another
call waits under this one, that call is left without its answer. -/
def forget (c : Connection σ) (caller : Nat) : Connection σ :=
  let rest := { c with calls := c.calls.filter (·.1 ≠ caller) }
  match (c.call? caller).bind Call.number? with
  | some n => rest.resolve n (.error (.transport .connectionClosed))
  | none => rest

def finish (c : Connection σ) (caller : Nat) (ending : Ending) : Progress σ :=
  (c.forget caller, [.ended caller ending])

/-- Hands a frame to a writer of its own, if the frame can be encoded. -/
def enqueue (c : Connection σ) (p : Profile σ) (purpose : Purpose) (f : Frame) :
    Except CodecError (Connection σ) :=
  match f.write p.limit with
  | .error e => .error e
  | .ok _ =>
    .ok { c with
      writers := c.writers ++ [(c.nextWriter, ⟨purpose, f⟩)]
      nextWriter := c.nextWriter + 1 }

/-- Shuts the stream and fails all waiting calls; a second time nothing happens. -/
def teardown (c : Connection σ) : Progress σ :=
  if c.phase.isOver then (c, [])
  else
    ({ c.deliver (· ∈ c.table.waiting) (.error (.transport .connectionClosed)) with
        phase := .disconnected
        shut := true
        table := c.table.close },
      [.closed (c.phase = .connected)])

def leave (c : Connection σ) : Progress σ := { c with loop := .over }.teardown

def failHandshake (c : Connection σ) (e : TransportError) : Progress σ :=
  let q := c.leave
  (q.1, .handshakeFailed :: q.2 ++ [.started (.error e)])

def establish (c : Connection σ) : Progress σ :=
  ({ c with phase := .connected, loop := .reading }, [.opened])

end Connection

end Rpc
