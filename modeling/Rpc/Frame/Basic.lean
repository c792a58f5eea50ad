import Rpc.Bytes
import Rpc.Message.Kind

/-! # Frames

A frame is the unit of transmission: a conversation number, a kind, and parts in wire order. Each
kind allows at most two sequences of parts.
-/
namespace Rpc

open Message

/-- What a part of a frame holds. -/
inductive Part.Role
  | baggage | heading | payload | control
  deriving DecidableEq, Repr

structure Part where
  role : Part.Role
  content : Bytes
  deriving DecidableEq, Repr

structure Frame where
  conversation : UInt64
  kind : Kind
  parts : List Part
  deriving DecidableEq, Repr

namespace Part.Role

def tag : Role → UInt16
  | baggage => 1 | heading => 2 | payload => 3 | control => 4

def ofTag? (t : UInt16) : Option Role :=
  if t = 1 then some baggage else if t = 2 then some heading else if t = 3 then some payload
  else if t = 4 then some control else none

/-- The spelling of a role in diagnostics. -/
def label : Role → String
  | baggage => "LayerData" | heading => "Headers" | payload => "Payload" | control => "Control"

theorem ofTag?_eq_some_iff {t : UInt16} {r : Role} : ofTag? t = some r ↔ t = r.tag := by
  cases r <;> grind [ofTag?, tag]

end Part.Role

namespace Frame

/-- Octets before the parts: conversation, kind, number of parts. -/
def headSize : Nat := 11

/-- Octets before the content of a part: role and length. -/
def partHeadSize : Nat := 6

def message (conversation : UInt64) (kind : Kind) (baggage heading : Option Bytes)
    (payload : Bytes) : Frame where
  conversation := conversation
  kind := kind
  parts := (baggage.map (⟨.baggage, ·⟩)).toList ++ (heading.map (⟨.heading, ·⟩)).toList ++
    [⟨.payload, payload⟩]

/-- Control frames belong to no conversation. -/
def control (content : Bytes) : Frame := ⟨0, .control, [⟨.control, content⟩]⟩

/-- The content of the first part with this role. -/
def content? (f : Frame) (role : Part.Role) : Option Bytes :=
  (f.parts.find? (·.role = role)).map (·.content)

def roles (f : Frame) : List Part.Role := f.parts.map (·.role)

/-- The sequences of parts that a kind allows. -/
def layouts : Kind → List (List Part.Role)
  | .control => [[.control]]
  | .request | .event => [[.baggage, .heading, .payload], [.heading, .payload]]
  | .response | .error => [[.baggage, .payload], [.payload]]

def WellFormed (f : Frame) : Prop := f.roles ∈ layouts f.kind

instance (f : Frame) : Decidable f.WellFormed := inferInstanceAs (Decidable (_ ∈ _))

/-- Octets of the frame behind its length word. -/
def bodySize (f : Frame) : Nat :=
  headSize + f.parts.foldr (fun p size => partHeadSize + p.content.length + size) 0

end Frame

end Rpc
