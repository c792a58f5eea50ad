import Rpc.Archive.Content
import Rpc.Call.Table
import Rpc.Dispatch
import Rpc.Frame.Codec
import Rpc.Layer.Basic

/-! # Reacting to incoming frames

What a frame of the peer asks for, decided from the frame, the own side and the layers alone.
Content that does not decode is a violation of the protocol. A message that the layers refuse is
answered if it is a request, dropped if it is an event, and fails the waiting call if it is an
answer.
-/
namespace Rpc

open Message

variable {σ : Type}

inductive Reaction
  | readOn
  /-- The server answers the greeting of a client with its own. -/
  | greetBack
  /-- Tells the peer what is wrong and leaves. -/
  | violation (code : UInt32) (details : String)
  | leave
  | serve (n : UInt64) (d : Delivery)
  | notify (d : Delivery)
  /-- Answers a request that the layers refused. -/
  | turnDown (n : UInt64) (fault : Fault)
  | complete (n : UInt64) (reply : Reply)

def malformed (e : CodecError) : Reaction := .violation Notice.malformedFrame e.message

/-- A frame without a baggage part carries no entries. -/
def frameBaggage (f : Frame) : Except CodecError Baggage :=
  match f.content? .baggage with
  | some bytes => Baggage.ofBytes bytes
  | none => .ok .empty

def frameHeading (f : Frame) : Except CodecError Heading :=
  match f.content? .heading with
  | some bytes => Heading.ofBytes bytes
  | none => .error (.invalidFrame (.noHeading f.kind))

def framePayload (f : Frame) : Bytes := (f.content? .payload).getD []

def frameNotice (f : Frame) : Except CodecError Notice :=
  match f.content? .control with
  | some bytes => Notice.ofBytes bytes
  | none => .error (.invalidFrame .noControl)

def frameResult (f : Frame) : Except CodecError (Except Fault Bytes) :=
  if f.kind = .response then .ok (.ok (framePayload f))
  else
    match Fault.ofBytes (framePayload f) with
    | .ok fault => .ok (.error fault)
    | .error e => .error e

def versionText (version : UInt32) : String :=
  s!"expected protocol version {Notice.protocolVersion}, got {version}"

/-- Only a server takes a greeting seriously once the connection is up. -/
def reactToNotice (side : Side) : Notice → Reaction
  | .hello version =>
    match side with
    | .client => .readOn
    | .server =>
      if version = Notice.protocolVersion then .greetBack
      else .violation Notice.versionMismatch (versionText version)
  | .violation _ _ | .close => .leave

def inspect (stack : Option (Stack σ)) (k : Kind) (b : Baggage) (s : σ) : Arrival σ :=
  match stack with
  | some stack => stack.receive k b s
  | none => ⟨.ok (), s⟩

def reactToMessage (stack : Option (Stack σ)) (f : Frame) (s : σ) : Reaction × σ :=
  match frameBaggage f with
  | .error e => (malformed e, s)
  | .ok b =>
    match frameHeading f with
    | .error e => (malformed e, s)
    | .ok h =>
      let a := inspect stack f.kind b s
      let d : Delivery := ⟨h.method, framePayload f, b⟩
      (match a.verdict with
        | .ok () => if f.kind = .request then .serve f.conversation d else .notify d
        | .error r => if f.kind = .request then .turnDown f.conversation r.fault else .readOn,
        a.state)

def serviceError (f : Fault) : CallError := .service f.code f.text

def reactToAnswer (stack : Option (Stack σ)) (f : Frame) (s : σ) : Reaction × σ :=
  match frameBaggage f with
  | .error e => (malformed e, s)
  | .ok b =>
    match frameResult f with
    | .error e => (malformed e, s)
    | .ok result =>
      let a := inspect stack f.kind b s
      (.complete f.conversation
        (match a.verdict, result with
          | .error r, _ => .error r.callError
          | .ok (), .ok payload => .ok payload
          | .ok (), .error fault => .error (serviceError fault)),
        a.state)

def react (side : Side) (stack : Option (Stack σ)) (f : Frame) (s : σ) : Reaction × σ :=
  match f.kind with
  | .control =>
    (match frameNotice f with
      | .ok n => reactToNotice side n
      | .error e => malformed e, s)
  | .request | .event => reactToMessage stack f s
  | .response | .error => reactToAnswer stack f s

/-! ## The greeting of the server -/

def expectedGreeting (k : Kind) : String := "expected config, got " ++ k.name ++ " frame"

def strangeVersion (version : UInt32) : String :=
  s!"peer speaks protocol version {version}, expected {Notice.protocolVersion}"

/-- The first frame that a client reads must greet it in its own version. -/
def expectGreeting (f : Frame) : Except TransportError Unit :=
  if f.kind = .control then
    match f.content? .control with
    | none => .error (.protocol (expectedGreeting f.kind))
    | some bytes =>
      match Notice.ofBytes bytes with
      | .error e => .error (.protocol e.message)
      | .ok (.hello version) =>
        if version = Notice.protocolVersion then .ok ()
        else .error (.protocol (strangeVersion version))
      | .ok (.violation _ details) => .error (.protocol details)
      | .ok .close => .error .connectionClosed
  else .error (.protocol (expectedGreeting f.kind))

/-- Whether an error says that the peer hung up without a word. -/
def TransportError.isHangUp : TransportError → Bool
  | .connectionClosed => true
  | .io fault => fault.isHangUp
  | _ => false

/-- A server that hangs up on a client which could not show a certificate wanted that one. -/
def blame (certificateMissing : Bool) (e : TransportError) : TransportError :=
  if certificateMissing ∧ e.isHangUp then .clientCertificateRequired else e

/-- What a read error in place of the greeting means. -/
def blameRead (certificateMissing : Bool) (fault : IoFault) : TransportError :=
  if fault.kind = .certificateAlert then .clientCertificateRequired
  else blame certificateMissing (.io fault)

end Rpc
