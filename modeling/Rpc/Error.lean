import Rpc.Frame.Basic
import Rpc.Span

/-! # Causes of failure

Errors are causes. The wording of each stands in one function per type, so that a statement about
when an error arises never mentions text.
-/
namespace Rpc

open Message

/-- Why the octets of a frame, or its parts, are refused. -/
inductive FrameFlaw
  | unknownKind (tag : UInt8)
  | unknownRole (tag : UInt16)
  | layout (roles : List Part.Role) (kind : Kind)
  | tooManyParts
  | cutPartHead
  | overrun (claimed left : Nat)
  | trailing (left : Nat)
  | shortBody (size : Nat)
  | noControl
  | noHeading (kind : Kind)
  | stated (text : String)
  deriving DecidableEq, Repr

/-- Why archived content is refused. -/
inductive ArchiveFlaw
  | outsideWindow
  | misaligned
  | shortLongText
  | notText
  | unknownTag
  | unknownNode
  | overfullLeaf
  | wrongCount
  | stated (text : String)
  deriving DecidableEq, Repr

inductive IoKind
  | reset | aborted | brokenPipe | unexpectedEnd
  /-- The peer says that it requires a certificate. -/
  | certificateAlert
  | other
  deriving DecidableEq, Repr

structure IoFault where
  kind : IoKind
  text : String
  deriving DecidableEq, Repr

inductive CodecError
  | frameTooLarge (size limit : Nat)
  | invalidFrame (flaw : FrameFlaw)
  | serialization (text : String)
  | deserialization (flaw : ArchiveFlaw)
  | io (fault : IoFault)
  deriving DecidableEq, Repr

inductive TransportError
  | io (fault : IoFault)
  | connectionClosed
  | connectionFailed (text : String)
  | resolution (text : String)
  | tlsAuthentication (text : String)
  | clientCertificateRequired
  | protocol (text : String)
  | usedAfterShutdown
  | invalidEndpoint (text : String)
  | layerStack (text : String)
  deriving DecidableEq, Repr

/-- What a caller of a connection can get instead of an answer. -/
inductive CallError
  | transport (cause : TransportError)
  | codec (cause : CodecError)
  | service (code : UInt32) (text : String)
  | layer (code : UInt32) (text : String)
  | timeout (waited : Span)
  | cancelled
  deriving DecidableEq, Repr

namespace FrameFlaw

def bracketed (labels : List String) : String := "[" ++ ", ".intercalate labels ++ "]"

def message : FrameFlaw → String
  | unknownKind tag => s!"unknown message kind {tag}"
  | unknownRole tag => s!"unknown framelet type {tag}"
  | layout roles kind =>
    "unexpected framelet sequence " ++ bracketed (roles.map Part.Role.label) ++ " for " ++
      kind.name ++ " frame"
  | tooManyParts => "too many framelets"
  | cutPartHead => "truncated framelet header"
  | overrun claimed left => s!"framelet claims {claimed} bytes, {left} left"
  | trailing left => s!"{left} trailing bytes after framelets"
  | shortBody size => s!"frame body of {size} bytes is shorter than the header"
  | noControl => "control frame without content"
  | noHeading kind => kind.name ++ " frame without headers"
  | stated text => text

end FrameFlaw

namespace ArchiveFlaw

def message : ArchiveFlaw → String
  | outsideWindow => "pointer outside the window"
  | misaligned => "misaligned pointer"
  | shortLongText => "short text out of line"
  | notText => "text is not UTF-8"
  | unknownTag => "unknown tag"
  | unknownNode => "unknown node kind"
  | overfullLeaf => "leaf with too many entries"
  | wrongCount => "entry count does not match"
  | stated text => text

end ArchiveFlaw

namespace IoFault

/-- The stream ended inside a frame. -/
def cutFrame : IoFault := ⟨.other, "bytes remaining on stream"⟩

/-- Whether the fault says that the other end went away abruptly. -/
def isHangUp (f : IoFault) : Bool := [.reset, .aborted, .brokenPipe, .unexpectedEnd].contains f.kind

end IoFault

namespace CodecError

def message : CodecError → String
  | frameTooLarge size limit => s!"frame too large: {size} bytes (max: {limit})"
  | invalidFrame flaw => "invalid frame: " ++ flaw.message
  | serialization text => "serialization error: " ++ text
  | deserialization flaw => "deserialization error: " ++ flaw.message
  | io fault => "io error: " ++ fault.text

end CodecError

namespace TransportError

def message : TransportError → String
  | io fault => "io error: " ++ fault.text
  | connectionClosed => "connection closed"
  | connectionFailed text => "connection failed: " ++ text
  | resolution text => "resolution failed: " ++ text
  | tlsAuthentication text => "tls authentication failed: " ++ text
  | clientCertificateRequired => "mutual authentication required"
  | protocol text => "protocol error: " ++ text
  | usedAfterShutdown => "stream used after shutdown"
  | invalidEndpoint text => "invalid endpoint: " ++ text
  | layerStack text => "layer stack error: " ++ text

end TransportError

namespace CallError

def message : CallError → String
  | transport cause => "transport error: " ++ cause.message
  | codec cause => "codec error: " ++ cause.message
  | service code text => s!"service error [{code}]: {text}"
  | layer code text => s!"layer error [{code}]: {text}"
  | timeout waited => "timeout after " ++ waited.render
  | cancelled => "request cancelled"

/-- Whether the call may succeed on a fresh connection. -/
def isRetryable : CallError → Bool
  | transport (.io _) | transport .connectionClosed | transport (.connectionFailed _) => true
  | timeout _ => true
  | _ => false

/-- Whether the connection is of no more use. -/
def isConnectionError : CallError → Bool
  | transport .connectionClosed | transport (.io _) | transport (.protocol _)
  | transport .usedAfterShutdown => true
  | _ => false

end CallError

/-- One step after the other comes to a result if both do. -/
theorem bind_eq_ok {ε α β : Type} {x : Except ε α} {f : α → Except ε β} {b : β} :
    x >>= f = .ok b ↔ ∃ a, x = .ok a ∧ f a = .ok b := by
  cases x with
  | error e => simp [bind, Except.bind]
  | ok a => simp [bind, Except.bind]

end Rpc
