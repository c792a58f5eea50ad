import Rpc.Connection.Basic

/-! # Writing frames

A writer gets the stream, in any order among the writers, and either puts its whole frame on the
wire or fails. A failed write ends the connection; a stream that is shut takes no frame.
-/
namespace Rpc.Connection

variable {σ : Type}

/-- What happens once a frame has been written, or could not be. -/
def resume (c : Connection σ) (p : Profile σ) (result : Except TransportError Unit) :
    Purpose → Progress σ
  | .call caller n =>
    match c.call? caller with
    | none => (c, [])
    | some k =>
      -- a caller that came again after it gave up has another call
      if k.stage = .writing n then
        match result with
        | .error e => c.finish caller (.failed (.transport e))
        | .ok () =>
          if k.expectsAnswer then (c.setStage caller (.awaiting n), [])
          else c.finish caller .sent
      else (c, [])
  | .answer => (c, [])
  | .greeting =>
    match c.loop, result with
    | .greeting, .ok () => ({ c with loop := .greeted }, [])
    | .greeting, .error e => c.failHandshake (blame p.certificateMissing e)
    | _, _ => (c, [])
  | .greetingBack =>
    match result with
    | .ok () => ({ c with loop := .reading }, [])
    | .error _ => c.leave
  | .turnDown => ({ c with loop := .reading }, [])
  | .violation => c.leave
  | .farewell => c.teardown

def dropWriter (c : Connection σ) (writer : Nat) : Connection σ :=
  { c with writers := c.writers.filter (·.1 ≠ writer) }

def write (c : Connection σ) (p : Profile σ) (writer : Nat) : Progress σ :=
  match c.writers.lookup writer with
  | none => (c, [])
  | some w =>
    let c := c.dropWriter writer
    if c.shut then c.resume p (.error .connectionClosed) w.purpose
    else
      let q := c.resume p (.ok ()) w.purpose
      (q.1, .sent w.frame :: q.2)

def failWrite (c : Connection σ) (p : Profile σ) (writer : Nat) (fault : IoFault) : Progress σ :=
  match c.writers.lookup writer with
  | none => (c, [])
  | some w =>
    let c := c.dropWriter writer
    let e := if c.shut then TransportError.connectionClosed else .io fault
    c.teardown.andThen (·.resume p (.error e) w.purpose)

end Rpc.Connection
