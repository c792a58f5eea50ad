import Rpc.Frame.Codec
import Rpc.Span

/-! # Settings of a transport -/
namespace Rpc

/-- When idle sockets are probed: after how long, and how often then. -/
structure KeepAlive where
  idle : Span := .zero
  interval : Span := .zero
  deriving DecidableEq, Repr

namespace KeepAlive

def disabled : KeepAlive := {}

/-- Probing takes both spans; one that is zero turns it off. -/
def isEnabled (k : KeepAlive) : Bool := !k.idle.isZero && !k.interval.isZero

def describe (k : KeepAlive) : String :=
  "TimeoutConfig \x7b keep_alive_time: " ++ k.idle.render ++ ", keep_alive_interval: " ++
    k.interval.render ++ " \x7d"

end KeepAlive

structure Settings where
  maxFrameSize : Nat := Frame.defaultLimit
  connectTimeout : Span := .ofSeconds 10
  handshakeTimeout : Span := .ofSeconds 10
  nodelay : Bool := true
  keepAlive : KeepAlive := .disabled
  deriving DecidableEq, Repr

namespace Settings

def describe (s : Settings) : String :=
  s!"TransportConfig \x7b max_frame_size: {s.maxFrameSize}, connect_timeout: " ++
    s.connectTimeout.render ++ ", handshake_timeout: " ++ s.handshakeTimeout.render ++
    s!", nodelay: {s.nodelay}, timeouts: " ++ s.keepAlive.describe ++ " \x7d"

/-- How a transport with these settings shows itself. -/
def describeTransport (s : Settings) (clientTls serverTls : Bool) (listeners : Nat) : String :=
  "Transport \x7b config: " ++ s.describe ++
    s!", client_tls: {clientTls}, server_tls: {serverTls}, listeners: {listeners}, .. \x7d"

end Settings

end Rpc
