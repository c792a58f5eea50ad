import Rpc.Bytes

/-! # Trace ids

A trace id is sixteen octets that mark all messages of one trace. It is shown as hexadecimal digits.
-/
namespace Rpc.Message

structure TraceId where
  octets : Bytes
  length_octets : octets.length = 16
  deriving DecidableEq, Repr

namespace TraceId

/-- Any other number of octets is no trace id. -/
def ofBytes? (b : Bytes) : Option TraceId := if h : b.length = 16 then some ⟨b, h⟩ else none

def display (t : TraceId) : String := t.octets.hex

theorem ofBytes?_eq_some_iff {b : Bytes} {t : TraceId} : ofBytes? b = some t ↔ b = t.octets := by
  unfold ofBytes?
  constructor
  · intro h
    split at h
    · cases h; rfl
    · cases h
  · rintro rfl
    rw [dif_pos t.length_octets]

theorem ofBytes?_octets (t : TraceId) : ofBytes? t.octets = some t :=
  ofBytes?_eq_some_iff.mpr rfl

end TraceId

end Rpc.Message
