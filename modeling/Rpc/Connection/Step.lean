import Rpc.Connection.Calling
import Rpc.Connection.Receiving
import Rpc.Connection.Writing

/-! # Runs of a connection

The events of a connection in any order: its application calls and stops, its tasks go on, its
handlers finish, writes succeed or fail, and things arrive. An event that does not fit the state
changes nothing, so every list of events is a run.
-/
namespace Rpc

inductive Event
  | start
  | call (caller : Nat) (expectsAnswer : Bool) (context : CallContext) (moment : Moment)
      (method : String) (payload : Bytes)
  | advance (caller : Nat)
  | expire (caller : Nat)
  | cancel (caller : Nat)
  | abandon (caller : Nat)
  | write (writer : Nat)
  | failWrite (writer : Nat) (fault : IoFault)
  | arrive (incoming : Incoming)
  | answer (handler : Nat) (result : Except Message.Fault Bytes)
  | handshakeTimeout (waited : Span)
  | stop

namespace Connection

open Message

variable {σ : Type}

/-- A server is up at once, a client once it has been greeted. -/
def start (c : Connection σ) (p : Profile σ) : Progress σ :=
  if c.loop ≠ .unstarted then (c, [])
  else
    match p.side with
    | .server =>
      if c.shut then ({ c with loop := .over }, [.started (.error .usedAfterShutdown)])
      else c.establish
    | .client =>
      let c := { c with phase := .connecting }
      if c.shut then c.failHandshake .usedAfterShutdown
      else
        match noticeFrame .greeting with
        | .error e => c.failHandshake (.protocol (CallError.codec e).message)
        | .ok f =>
          match c.enqueue p .greeting f with
          | .error e => c.failHandshake (.protocol (CallError.codec e).message)
          | .ok c => ({ c with loop := .greeting }, [])

def timeOutHandshake (c : Connection σ) (waited : Span) : Progress σ :=
  match c.loop with
  | .greeting | .greeted =>
    c.failHandshake (.connectionFailed ("no handshake reply within " ++ waited.render))
  | _ => (c, [])

/-- The application stops the connection; one that is up says goodbye first. -/
def stop (c : Connection σ) (p : Profile σ) : Progress σ :=
  if c.phase = .connected then
    match noticeFrame .close with
    | .error _ => c.teardown
    | .ok f =>
      match c.enqueue p .farewell f with
      | .error _ => c.teardown
      | .ok c => (c, [])
  else c.teardown

def step (p : Profile σ) (c : Connection σ) : Event → Progress σ
  | .start => c.start p
  | .call caller expects context moment method payload =>
    c.call caller expects context moment method payload
  | .advance caller => c.advance p caller
  | .expire caller => c.expire caller
  | .cancel caller => c.cancel caller
  | .abandon caller => c.abandon caller
  | .write writer => c.write p writer
  | .failWrite writer fault => c.failWrite p writer fault
  | .arrive incoming => c.arrive p incoming
  | .answer handler result => c.answer p handler result
  | .handshakeTimeout waited => c.timeOutHandshake waited
  | .stop => c.stop p

def run (p : Profile σ) (c : Connection σ) : List Event → Progress σ
  | [] => (c, [])
  | e :: es => (c.step p e).andThen fun c => run p c es

end Connection

end Rpc
