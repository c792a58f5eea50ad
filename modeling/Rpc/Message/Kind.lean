/-! # Message kinds

The kind of a message is one octet of its frame. Requests and events name a method; responses and
errors answer a request; control messages concern the connection as a whole.
-/
namespace Rpc.Message

inductive Kind
  | request | response | event | error | control
  deriving DecidableEq, Repr

namespace Kind

def tag : Kind → UInt8
  | request => 1 | response => 2 | event => 3 | error => 4 | control => 5

def ofTag? (t : UInt8) : Option Kind :=
  if t = 1 then some request else if t = 2 then some response else if t = 3 then some event
  else if t = 4 then some error else if t = 5 then some control else none

def name : Kind → String
  | request => "request" | response => "response" | event => "event" | error => "error"
  | control => "control"

def all : List Kind := [request, response, event, error, control]

def ofName? (s : String) : Option Kind := all.find? (·.name = s)

/-- Whether frames of this kind name the method they are meant for. -/
def namesMethod : Kind → Bool
  | request | event => true
  | _ => false

/-- Whether this kind answers an outstanding request. -/
def isAnswer : Kind → Bool
  | response | error => true
  | _ => false

theorem ofTag?_eq_some_iff {t : UInt8} {k : Kind} : ofTag? t = some k ↔ t = k.tag := by
  cases k <;> grind [ofTag?, tag]

end Kind

end Rpc.Message
