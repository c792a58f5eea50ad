import Rpc.Connection.Basic

/-! # The receive loop

Takes in what arrives, one piece at a time: a frame, octets that make none, the end of the stream,
or a read error. Requests go to handlers that answer in their own time; the loop itself waits only
for frames that it writes.
-/
namespace Rpc

inductive Incoming
  | frame (f : Frame)
  | malformed (cause : CodecError)
  | broken (fault : IoFault)
  | ended

namespace Connection

open Message

variable {σ : Type}

/-- Writes a frame of the receive loop, which pauses for it; what cannot be encoded counts as not
written. -/
def say (c : Connection σ) (p : Profile σ) (purpose : Purpose) (f : Except CodecError Frame)
    (otherwise : Connection σ → Progress σ) : Progress σ :=
  match f with
  | .error _ => otherwise c
  | .ok f =>
    match c.enqueue p purpose f with
    | .error _ => otherwise c
    | .ok c => ({ c with loop := .paused }, [])

/-- Tells the peer of its violation, then leaves. -/
def violate (c : Connection σ) (p : Profile σ) (code : UInt32) (details : String) : Progress σ :=
  let q := c.say p .violation (noticeFrame (.violation code details)) leave
  (q.1, .violated :: q.2)

def follow (c : Connection σ) (p : Profile σ) : Reaction → Progress σ
  | .readOn => (c, [])
  | .greetBack => c.say p .greetingBack (noticeFrame .greeting) leave
  | .violation code details => c.violate p code details
  | .leave => c.leave
  | .serve n d =>
    ({ c with serving := c.serving ++ [(c.nextHandler, n)], nextHandler := c.nextHandler + 1 },
      [.serve c.nextHandler n d])
  | .notify d => (c, [.notify d])
  | .turnDown n fault =>
    let built := finalAnswer p.stack n (.error fault) c.surroundings
    let c := { c with surroundings := built.2 }
    match built.1 with
    | some f => c.say p .turnDown (.ok f) fun c => (c, [])
    | none => (c, [])
  | .complete n reply => (c.resolve n reply, [])

def accept (c : Connection σ) (p : Profile σ) (f : Frame) : Progress σ :=
  let r := react p.side p.stack f c.surroundings
  let q := { c with surroundings := r.2 }.follow p r.1
  (q.1, .received f.kind :: q.2)

def greet (c : Connection σ) (p : Profile σ) : Incoming → Progress σ
  | .frame f =>
    let q := match expectGreeting f with
      | .ok () =>
        let q := c.establish
        (q.1, q.2 ++ [Output.started (.ok ())])
      | .error e => c.failHandshake e
    (q.1, .received f.kind :: q.2)
  | .malformed e => c.failHandshake (.protocol e.message)
  | .broken fault => c.failHandshake (blameRead p.certificateMissing fault)
  | .ended => c.failHandshake (blame p.certificateMissing .connectionClosed)

/-- The receive loop takes in the next piece, if it is ready to. -/
def arrive (c : Connection σ) (p : Profile σ) (a : Incoming) : Progress σ :=
  match c.loop with
  | .greeted => c.greet p a
  | .reading =>
    match a with
    | .frame f => c.accept p f
    | .malformed e => c.violate p Notice.malformedFrame e.message
    | .broken _ | .ended => c.leave
  | _ => (c, [])

/-- A handler comes to a result; an answer that cannot be encoded is lost. -/
def answer (c : Connection σ) (p : Profile σ) (handler : Nat) (result : Except Fault Bytes) :
    Progress σ :=
  match c.serving.lookup handler with
  | none => (c, [])
  | some n =>
    let built := finalAnswer p.stack n result c.surroundings
    let c := { c with
      serving := c.serving.filter (·.1 ≠ handler)
      surroundings := built.2 }
    match built.1 with
    | none => (c, [])
    | some f =>
      match c.enqueue p .answer f with
      | .ok c => (c, [])
      | .error _ => (c, [])

end Connection

end Rpc
