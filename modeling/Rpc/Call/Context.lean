import Rpc.Error
import Rpc.Message.Baggage

/-! # Call contexts

Every outgoing call carries a context: perhaps a deadline, perhaps a token by which its caller may
cancel it, and baggage to start from. Time and tokens belong to the surroundings; a moment tells
how they stand when a context is looked at.
-/
namespace Rpc

open Message

/-- Names a cancellation token, which several calls may share. -/
abbrev Token := Nat

structure Moment where
  now : Instant
  cancelled : Token → Bool

structure CallContext where
  deadline : Option Instant := none
  token : Option Token := none
  baggage : Baggage := .empty

namespace CallContext

/-- Sets the deadline some time ahead of now. There is no context whose deadline lies behind the
end of the clock. -/
def withTimeout (c : CallContext) (m : Moment) (span : Span) : Option CallContext :=
  (m.now.later? span.nanos).map fun d => { c with deadline := some d }

/-- A deadline has passed as soon as it is reached. -/
def isExpired (c : CallContext) (m : Moment) : Bool :=
  match c.deadline with
  | some d => d ≤ m.now
  | none => false

def isCancelled (c : CallContext) (m : Moment) : Bool :=
  match c.token with
  | some t => m.cancelled t
  | none => false

/-- The time until the deadline; none without a deadline or after it. -/
def remaining (c : CallContext) (m : Moment) : Option Span :=
  match c.deadline with
  | some d => if m.now ≤ d then some (d.since m.now) else none
  | none => none

end CallContext

end Rpc
