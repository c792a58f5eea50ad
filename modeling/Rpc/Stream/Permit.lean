import Rpc.Frame.Codec

/-! # The write permit of a stream

Frames are written by tasks of their own, one at a time. A frame is encoded, and then a writer looks
whether the stream is shut, waits for the permit, looks again, puts the octets on the wire piece by
piece, and gives the permit back. A failed write gives the permit back first and shuts the stream
afterwards. Shutting raises the flag; if the permit is free, it is taken for a graceful close; then
the socket is closed. Each of these is one step, and steps of different tasks come in any order.

The caller that wants a frame written may go away; the writer goes on as it would. The caller that
shuts the stream takes the rest of its work with it: at the graceful close, where it waits, it gives
the permit back and leaves the socket open.

A connection that writes a frame in one step goes through these steps of a writer that nobody
disturbs (`Connection.exists_wire`).
-/
namespace Rpc.Stream

inductive Writing
  | begun (frame : Bytes)
  | waiting (frame : Bytes)
  | holding (frame : Bytes)
  /-- Holds the permit and found the stream open again. -/
  | putting (left : Bytes)
  /-- Gave the permit back after a failure; has yet to shut the stream. -/
  | failing
  | written
  | failed
  /-- The frame could not be encoded, or the stream was shut before anything was written. -/
  | refused
  deriving DecidableEq, Repr

namespace Writing

def holds : Writing → Bool
  | holding _ | putting _ => true
  | _ => false

def isDone : Writing → Bool
  | written | failed | refused => true
  | _ => false

end Writing

inductive Shutting
  | begun
  | flagged
  | graceful
  /-- Its caller went away meanwhile. -/
  | dropped
  | closing
  /-- The flag says whether this one did the work. -/
  | done (worked : Bool)
  deriving DecidableEq, Repr

structure Wire where
  limit : Nat
  /-- The pieces put on the wire with their writers, the latest first. -/
  pieces : List (Nat × Bytes)
  shut : Bool
  closed : Bool
  broken : Bool
  writers : List (Nat × Writing)
  shutters : List (Nat × Shutting)

namespace Wire

inductive Event
  | begin (writer : Nat) (frame : Frame)
  /-- The next step of a writer that is neither putting nor done. -/
  | advance (writer : Nat)
  | put (writer : Nat) (count : Nat)
  | flush (writer : Nat)
  | fail (writer : Nat)
  | beginShut (task : Nat)
  | shut (task : Nat)
  | drop (task : Nat)

def new (limit : Nat) : Wire := ⟨limit, [], false, false, false, [], []⟩

def bytes (w : Wire) : Bytes := w.pieces.reverse.flatMap (·.2)

/-- Nobody has the permit. -/
def isFree (w : Wire) : Bool :=
  w.writers.all (!·.2.holds) && w.shutters.all (·.2 ≠ .graceful)

def setWriter (w : Wire) (writer : Nat) (after : Writing) : Wire :=
  { w with writers := w.writers.map fun e => if e.1 = writer then (writer, after) else e }

def setShutter (w : Wire) (task : Nat) (after : Shutting) : Wire :=
  { w with shutters := w.shutters.map fun e => if e.1 = task then (task, after) else e }

def beginShut (w : Wire) (task : Nat) : Wire :=
  if (w.shutters.lookup task).isSome then w
  else { w with shutters := w.shutters ++ [(task, .begun)] }

/-- Only the first shutdown does the work. -/
def stepShut (w : Wire) (task : Nat) : Shutting → Wire
  | .begun => if w.shut then w.setShutter task (.done false)
    else { w with shut := true }.setShutter task .flagged
  | .flagged => w.setShutter task (if w.isFree then .graceful else .closing)
  | .graceful => w.setShutter task .closing
  | .closing => { w with closed := true }.setShutter task (.done true)
  | .dropped | .done _ => w

/-- The graceful close is where a shutdown waits. That of a failed write is part of the writer, which
nobody drops. -/
def dropShut (w : Wire) (task : Nat) : Shutting → Wire
  | .graceful => if (w.writers.lookup task).isSome then w else w.setShutter task .dropped
  | _ => w

/-- A frame that cannot be encoded is not written. -/
def join (w : Wire) (writer : Nat) (frame : Frame) : Wire :=
  let writing := match frame.write w.limit with
    | .ok octets => Writing.begun octets
    | .error _ => .refused
  { w with writers := w.writers ++ [(writer, writing)] }

def stepWriter (w : Wire) (writer : Nat) : Writing → Wire
  | .begun frame => w.setWriter writer (if w.shut then .refused else .waiting frame)
  | .waiting frame => if w.isFree then w.setWriter writer (.holding frame) else w
  | .holding frame => w.setWriter writer (if w.shut then .refused else .putting frame)
  | .failing => (w.setWriter writer .failed).beginShut writer
  | _ => w

/-- A closed socket takes nothing; how many octets an open one takes is its own affair. -/
def put (w : Wire) (writer count : Nat) : Writing → Wire
  | .putting left =>
    if w.closed then w
    else { w with pieces := (writer, left.take count) :: w.pieces }.setWriter writer
      (.putting (left.drop count))
  | _ => w

def flush (w : Wire) (writer : Nat) : Writing → Wire
  | .putting [] => w.setWriter writer .written
  | _ => w

def fail (w : Wire) (writer : Nat) : Writing → Wire
  | .putting _ => { w with broken := true }.setWriter writer .failing
  | _ => w

def withWriter (w : Wire) (writer : Nat) (f : Writing → Wire) : Wire :=
  match w.writers.lookup writer with
  | some g => f g
  | none => w

def withShutter (w : Wire) (task : Nat) (f : Shutting → Wire) : Wire :=
  match w.shutters.lookup task with
  | some g => f g
  | none => w

def step (w : Wire) : Event → Wire
  | .begin writer frame =>
    if (w.writers.lookup writer).isSome then w else w.join writer frame
  | .advance writer => w.withWriter writer (w.stepWriter writer)
  | .put writer count => w.withWriter writer (w.put writer count)
  | .flush writer => w.withWriter writer (w.flush writer)
  | .fail writer => w.withWriter writer (w.fail writer)
  | .beginShut task => w.beginShut task
  | .shut task => w.withShutter task (w.stepShut task)
  | .drop task => w.withShutter task (w.dropShut task)

def run (w : Wire) (es : List Event) : Wire := es.foldl step w

def Event.isPut : Event → Bool
  | .put _ _ => true
  | _ => false

/-- A socket that has failed once takes nothing more. -/
def FailsForGood : Wire → List Event → Prop
  | _, [] => True
  | w, e :: es => (e.isPut → w.broken = false) ∧ (w.step e).FailsForGood es

instance decidableFailsForGood : (w : Wire) → (es : List Event) → Decidable (w.FailsForGood es)
  | _, [] => isTrue trivial
  | w, e :: es =>
    have := decidableFailsForGood (w.step e) es
    inferInstanceAs (Decidable (_ ∧ _))

end Wire

end Rpc.Stream
