import Rpc.Message.Baggage

/-! # What the parts of a frame hold

Besides the opaque payload a frame carries a heading, baggage, a fault in place of a payload, or a
notice about the connection.
-/
namespace Rpc.Message

/-- Names the method that a request or event is meant for. -/
structure Heading where
  method : String
  deriving DecidableEq, Repr

/-- What an error answer tells the caller. -/
structure Fault where
  code : UInt32
  text : String
  details : Option Bytes
  deriving DecidableEq, Repr

namespace Fault

def permissionDenied : UInt32 := 7
def unimplemented : UInt32 := 12
def internal : UInt32 := 13

def ofText (code : UInt32) (text : String) : Fault := ⟨code, text, none⟩

def display (f : Fault) : String := s!"[{f.code}] {f.text}"

end Fault

/-- A message about the connection itself. -/
inductive Notice
  | hello (version : UInt32)
  | violation (code : UInt32) (details : String)
  | close
  deriving DecidableEq, Repr

namespace Notice

/-- The only protocol version that both ends may speak. -/
def protocolVersion : UInt32 := 1

def malformedFrame : UInt32 := 1
def versionMismatch : UInt32 := 3

def greeting : Notice := hello protocolVersion

end Notice

end Rpc.Message
