import Rpc.Archive.Content
import Rpc.Frame.Codec
import Rpc.Layer.Basic

/-! # Building outgoing frames

The baggage of a message goes up the stack before the message becomes a frame. With a stack the
frame always has a baggage part, even an empty one; without, only if there is baggage. An answer
that cannot be built is replaced by an error that says why, so the request is not left open.
-/
namespace Rpc

open Message

variable {σ : Type}

def packBaggage (stack : Option (Stack σ)) (k : Kind) (b : Baggage) (s : σ) :
    Except CallError (Option Bytes) × σ :=
  match stack with
  | some stack =>
    let d := stack.send k b s
    match d.verdict with
    | .error r => (.error r.callError, d.state)
    | .ok () =>
      match d.baggage.toBytes with
      | .ok bytes => (.ok (some bytes), d.state)
      | .error e => (.error (.codec e), d.state)
  | none =>
    if b.isEmpty then (.ok none, s)
    else
      match b.toBytes with
      | .ok bytes => (.ok (some bytes), s)
      | .error e => (.error (.codec e), s)

def packHeading (method : Option String) : Except CallError (Option Bytes) :=
  match method with
  | none => .ok none
  | some m =>
    match (Heading.mk m).toBytes with
    | .ok bytes => .ok (some bytes)
    | .error e => .error (.codec e)

def messageFrame (stack : Option (Stack σ)) (n : UInt64) (k : Kind) (b : Baggage)
    (method : Option String) (payload : Bytes) (s : σ) : Except CallError Frame × σ :=
  let packed := packBaggage stack k b s
  (match packed.1, packHeading method with
    | .error e, _ | .ok _, .error e => .error e
    | .ok baggage, .ok heading => .ok (.message n k baggage heading payload), packed.2)

/-- The frame of an answer that went through the layers. -/
def answerFrame (stack : Option (Stack σ)) (n : UInt64) (result : Except Fault Bytes) (s : σ) :
    Except CallError Frame × σ :=
  match result with
  | .ok payload => messageFrame stack n .response .empty none payload s
  | .error f =>
    match f.toBytes with
    | .ok payload => messageFrame stack n .error .empty none payload s
    | .error e => (.error (.codec e), s)

/-- What the peer is told in place of an answer that could not be built. -/
def faultFor (cause : CallError) : Fault :=
  match cause with
  | .layer code text => .ofText code text
  | e => .ofText Fault.internal e.message

/-- The frame that answers a request, unless not even the error can be archived. -/
def finalAnswer (stack : Option (Stack σ)) (n : UInt64) (result : Except Fault Bytes) (s : σ) :
    Option Frame × σ :=
  let first := answerFrame stack n result s
  (match first.1 with
    | .ok f => some f
    | .error cause =>
      match (faultFor cause).toBytes with
      | .ok payload => some (.message n .error none none payload)
      | .error _ => none, first.2)

def noticeFrame (n : Notice) : Except CodecError Frame :=
  match n.toBytes with
  | .ok bytes => .ok (.control bytes)
  | .error e => .error e

end Rpc
