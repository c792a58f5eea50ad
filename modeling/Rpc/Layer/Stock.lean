import Rpc.Layer.Basic

/-! # Stock layers

Small layers to build stacks from. They share a journal, to which the recording layer adds a line
for every message that reaches it.
-/
namespace Rpc.Layer

open Message

abbrev Journal := List String

def record (name : String) : Layer Journal where
  send k b j := ⟨.ok (), b, j ++ ["send:" ++ name ++ ":" ++ k.name]⟩
  receive k _ j := ⟨.ok (), j ++ ["recv:" ++ name ++ ":" ++ k.name]⟩

def set (key : String) (value : Bytes) : Layer Journal where
  send _ b j := ⟨.ok (), b.insert key value, j⟩
  receive _ _ j := ⟨.ok (), j⟩

def remove (key : String) : Layer Journal where
  send _ b j := ⟨.ok (), b.erase key, j⟩
  receive _ _ j := ⟨.ok (), j⟩

def refuseSend (r : Refusal) : Layer Journal where
  send _ b j := ⟨.error r, b, j⟩
  receive _ _ j := ⟨.ok (), j⟩

def refuseReceive (r : Refusal) : Layer Journal where
  send _ b j := ⟨.ok (), b, j⟩
  receive _ _ j := ⟨.error r, j⟩

/-- Refuses messages from the peer that lack an entry. -/
def require (key : String) (r : Refusal) : Layer Journal where
  send _ b j := ⟨.ok (), b, j⟩
  receive _ b j := ⟨if b.contains key then .ok () else .error r, j⟩

end Rpc.Layer
