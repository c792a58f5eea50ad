import Rpc.Layer.Basic
import Rpc.Message.TraceId

/-! # The tracing layer

Sees to it that every outgoing request and event has a trace id, and marks every outgoing message
with the name of the sending service. A trace id that is there already is left alone, so it travels
along from hop to hop.
-/
namespace Rpc.Layer

open Message

def traceKey : String := "trace-id"

def serviceKey : String := "service"

/-- The trace id in a baggage; an entry of another size counts as none. -/
def traceId? (b : Baggage) : Option TraceId := (b.get? traceKey).bind TraceId.ofBytes?

/-- Stamps messages in the name of `service`, with ids that `draw` takes from the state. -/
def tracing {σ : Type} (draw : σ → TraceId × σ) (service : String) : Layer σ where
  send k b s :=
    let r := if k.namesMethod ∧ traceId? b = none then
        let d := draw s
        (b.insert traceKey d.1.octets, d.2)
      else (b, s)
    ⟨.ok (), r.1.insert serviceKey (Bytes.ofText service), r.2⟩
  receive _ _ s := ⟨.ok (), s⟩

end Rpc.Layer
