import Rpc.Error

/-! # A stream between two ends

Each end writes octets that the other reads, once it has taken its reader, of which there is one.
An end that is shut writes nothing and gives its reader away no more; a reader that was taken before
goes on to the end of what came. The other end finds out at its second write.
-/
namespace Rpc.Stream

inductive Reader
  | available | taken | dropped
  deriving DecidableEq, Repr

/-- One end: what came for it and was not read, and how it stands. -/
structure Terminal where
  inbox : Bytes
  reader : Reader
  shut : Bool
  /-- It wrote to a peer that was shut. -/
  warned : Bool
  deriving DecidableEq, Repr

structure Duplex where
  near : Terminal
  far : Terminal
  deriving DecidableEq, Repr

/-- What a read of a number of octets gives. -/
inductive Portion
  | octets (b : Bytes)
  | ended
  | noReader
  | waits
  deriving DecidableEq, Repr

def Terminal.new : Terminal := ⟨[], .available, false, false⟩

namespace Duplex

def new : Duplex := ⟨.new, .new⟩

/-- The same stream seen from its other end. -/
def swap (d : Duplex) : Duplex := ⟨d.far, d.near⟩

def write (d : Duplex) (b : Bytes) : Except TransportError Unit × Duplex :=
  if d.near.shut then (.error .usedAfterShutdown, d)
  else if d.far.shut then
    if d.near.warned then (.error (.io ⟨.brokenPipe, "broken pipe"⟩), d)
    else (.ok (), { d with near := { d.near with warned := true } })
  else (.ok (), { d with far := { d.far with inbox := d.far.inbox ++ b } })

def takeReader (d : Duplex) : Except TransportError Unit × Duplex :=
  if d.near.shut then (.error .usedAfterShutdown, d)
  else
    match d.near.reader with
    | .available => (.ok (), { d with near := { d.near with reader := .taken } })
    | .taken | .dropped => (.error (.protocol "stream reader already taken"), d)

/-- A read that comes to the end has used up what was there. -/
def read (d : Duplex) (count : Nat) : Portion × Duplex :=
  if d.near.reader ≠ .taken then (.noReader, d)
  else if count ≤ d.near.inbox.length then
    (.octets (d.near.inbox.take count),
      { d with near := { d.near with inbox := d.near.inbox.drop count } })
  else if d.near.shut ∨ d.far.shut then (.ended, { d with near := { d.near with inbox := [] } })
  else (.waits, d)

/-- Only the first shutdown does something; a reader that nobody took goes with it. -/
def shutdown (d : Duplex) : Bool × Duplex :=
  if d.near.shut then (false, d)
  else
    (true, { d with near := { d.near with
      shut := true
      reader := if d.near.reader = .available then .dropped else d.near.reader } })

end Duplex

end Rpc.Stream
