import Rpc.Archive.Cell

/-! # Search trees of an archive

Entries are archived as a search tree with five entries in a node. All levels but the last are
full; the last is filled from the left, so its nodes may end inside one inner node, whose later
children are absent. Nodes are written in post-order, each right behind the data of its entries.
-/
namespace Rpc.Archive

open Message

inductive Tree
  | absent
  | leaf (entries : List Entry)
  | inner (t₀ : Tree) (e₀ : Entry) (t₁ : Tree) (e₁ : Entry) (t₂ : Tree) (e₂ : Entry)
      (t₃ : Tree) (e₃ : Entry) (t₄ : Tree) (e₄ : Entry) (t₅ : Tree)

namespace Tree

def toList : Tree → List Entry
  | absent => []
  | leaf es => es
  | inner t₀ e₀ t₁ e₁ t₂ e₂ t₃ e₃ t₄ e₄ t₅ =>
    t₀.toList ++ e₀ :: (t₁.toList ++ e₁ :: (t₂.toList ++ e₂ :: (t₃.toList ++ e₃ ::
      (t₄.toList ++ e₄ :: t₅.toList))))

/-- Of `last` entries spread over children that take `room` each, the share of child `i`. -/
def share (last room i : Nat) : Nat := min room (last - i * room)

/-- Builds a tree of `height` levels with `last` entries on the last level from the front of a
list; also returns what it did not take. -/
def build : (height last : Nat) → List Entry → Tree × List Entry
  | 0, _, es => (absent, es)
  | 1, 0, es => (absent, es)
  | 1, last + 1, es => (leaf (es.take (last + 1)), es.drop (last + 1))
  | h + 2, 0, es => build (h + 1) (5 * Nat.pow 6 h) es
  | h + 2, last + 1, es =>
    let child := fun i => build (h + 1) (share (last + 1) (5 * Nat.pow 6 h) i)
    let r₀ := child 0 es
    let r₁ := child 1 r₀.2.tail
    let r₂ := child 2 r₁.2.tail
    let r₃ := child 3 r₂.2.tail
    let r₄ := child 4 r₃.2.tail
    let r₅ := child 5 r₄.2.tail
    let next := fun es : List Entry => es.headD default
    (inner r₀.1 (next r₀.2) r₁.1 (next r₁.2) r₂.1 (next r₂.2) r₃.1 (next r₃.2) r₄.1 (next r₄.2)
      r₅.1, r₅.2)

/-- The number of levels of a tree of `n` entries: the least `h` with `n < 6 ^ h`. -/
def height (n : Nat) : Nat := if n = 0 then 0 else height (n / 6) + 1

/-- The tree of the entries: the last level takes what the full levels above it leave. -/
def ofList (es : List Entry) : Tree :=
  let h := height es.length
  (build h (es.length - (Nat.pow 6 (h - 1) - 1)) es).1

/-- Octets that a tree puts from some position on, and the position of its topmost node. -/
structure Written where
  bytes : Bytes
  root : Option Nat

/-- The common part of a node at `here`; the data of its entries stands from `pos` on. -/
def nodeHead (kind : UInt8) (pos here : Nat) (es : List Entry) : Bytes :=
  [kind, 0, 0, 0] ++ fill 40 (keyCells pos (here + 4) es) ++ fill 40 (valueCells pos (here + 44) es)

def write (pos : Nat) : Tree → Written
  | absent => ⟨[], none⟩
  | leaf es =>
    let data := es.flatMap entryData
    let pad := Bytes.padding 4 (pos + data.length)
    let here := pos + data.length + pad.length
    ⟨data ++ pad ++ nodeHead 0 pos here es ++ Bytes.ofNat 4 es.length, some here⟩
  | inner t₀ e₀ t₁ e₁ t₂ e₂ t₃ e₃ t₄ e₄ t₅ =>
    let w₀ := t₀.write pos
    let p₁ := pos + w₀.bytes.length
    let w₁ := t₁.write p₁
    let p₂ := p₁ + w₁.bytes.length
    let w₂ := t₂.write p₂
    let p₃ := p₂ + w₂.bytes.length
    let w₃ := t₃.write p₃
    let p₄ := p₃ + w₃.bytes.length
    let w₄ := t₄.write p₄
    let p₅ := p₄ + w₄.bytes.length
    let w₅ := t₅.write p₅
    let p := p₅ + w₅.bytes.length
    let es := [e₀, e₁, e₂, e₃, e₄]
    let data := es.flatMap entryData
    let pad := Bytes.padding 4 (p + data.length)
    let here := p + data.length + pad.length
    ⟨w₀.bytes ++ w₁.bytes ++ w₂.bytes ++ w₃.bytes ++ w₄.bytes ++ w₅.bytes ++ data ++ pad ++
      nodeHead 1 p here es ++ pointerCell w₀.root (here + 84) ++ pointerCell w₁.root (here + 88) ++
      pointerCell w₂.root (here + 92) ++ pointerCell w₃.root (here + 96) ++
      pointerCell w₄.root (here + 100) ++ pointerCell w₅.root (here + 104), some here⟩

end Tree

end Rpc.Archive
