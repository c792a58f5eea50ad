import Rpc.Bytes
import Rpc.Error
import Rpc.Message.Baggage

/-! # Reading an archive inside a window

Pointers come from the peer, so every target is located before it is read: it must lie in a window
`[lo, hi)` of the buffer. While the content of a target is checked the window ends where the target
begins, and afterwards it begins where the target ends. Targets are therefore disjoint and in order,
and a chain of nested targets is no longer than the buffer.
-/
namespace Rpc.Archive

open Message

/-- The place of `size` octets at `pos`, if they lie in the window and are aligned. -/
def locate (lo hi : Nat) (pos : Int) (size align : Nat) : Except ArchiveFlaw Nat :=
  if pos < lo ∨ (hi : Int) < pos + size then .error .outsideWindow
  else if pos.toNat % align ≠ 0 then .error .misaligned
  else .ok pos.toNat

theorem locate_ok {lo hi : Nat} {pos : Int} {size align p : Nat}
    (h : locate lo hi pos size align = .ok p) :
    (p : Int) = pos ∧ lo ≤ p ∧ p + size ≤ hi ∧ p % align = 0 := by
  unfold locate at h
  split at h
  · cases h
  · split at h
    · cases h
    · cases h
      rename_i hw ha
      exact ⟨by omega, by omega, by omega, by omega⟩

def target (b : Bytes) (here : Nat) : Int := here + Bytes.toInt32 (Bytes.slice b here 4)

def asText (b : Bytes) : Except ArchiveFlaw String :=
  match Bytes.text? b with
  | some s => .ok s
  | none => .error .notText

/-- The text of the cell at `here`, and where the window begins afterwards. -/
def readText (b : Bytes) (lo hi here : Nat) : Except ArchiveFlaw (String × Nat) :=
  let code := Bytes.wordAt b here 4
  if code % 256 / 64 = 2 then
    let size := code % 64 + code / 256 * 64
    if size ≤ 8 then .error .shortLongText
    else do
      let pos ← locate lo hi (here + Bytes.toInt32 (Bytes.slice b (here + 4) 4)) size 1
      let text ← asText (Bytes.slice b pos size)
      return (text, pos + size)
  else do
    let text ← asText ((Bytes.slice b here 8).takeWhile (· ≠ 0xff))
    return (text, lo)

/-- The octets of the vector cell at `here`, and where the window begins afterwards. -/
def readVector (b : Bytes) (lo hi here : Nat) : Except ArchiveFlaw (Bytes × Nat) := do
  let size := Bytes.wordAt b (here + 4) 4
  let pos ← locate lo hi (target b here) size 1
  return (Bytes.slice b pos size, pos + size)

/-- The first `count` entries from index `i` on of the node at `here`. -/
def readEntries (b : Bytes) (hi here : Nat) :
    (count i lo : Nat) → Except ArchiveFlaw (List Entry × Nat)
  | 0, _, lo => .ok ([], lo)
  | n + 1, i, lo => do
    let (key, lo) ← readText b lo hi (here + 4 + 8 * i)
    let (value, lo) ← readVector b lo hi (here + 44 + 8 * i)
    let (es, lo) ← readEntries b hi here n (i + 1) lo
    return ((key, value) :: es, lo)

/-- Puts the entries of an inner node between those of its children. -/
def interleave : List (List Entry) → List Entry → List Entry
  | c :: cs, e :: es => c ++ e :: interleave cs es
  | cs, es => cs.flatten ++ es

/-- The entries of the node at `pos` and below, from left to right, and where the window begins
afterwards. The window of the children ends at the node, so they lie before it. -/
def readNode (b : Bytes) (lo hi : Nat) (pos : Int) : Except ArchiveFlaw (List Entry × Nat) :=
  match locate lo hi pos 84 4 with
  | .error e => .error e
  | .ok here =>
    let kind := Bytes.wordAt b here 1
    if kind = 0 then
      match locate lo hi pos 88 4 with
      | .error e => .error e
      | .ok here =>
        let count := Bytes.wordAt b (here + 84) 4
        if 5 < count then .error .overfullLeaf
        else do
          let (es, _) ← readEntries b here here count 0 lo
          return (es, here + 88)
    else if kind = 1 then
      match h : locate lo hi pos 108 4 with
      | .error e => .error e
      | .ok here =>
        have : here < hi := by have := (locate_ok h).2.2.1; omega
        let child := fun (lo field : Nat) =>
          if Bytes.toInt32 (Bytes.slice b field 4) = 1 then Except.ok ([], lo)
          else readNode b lo here (target b field)
        do
          let (c₀, lo) ← child lo (here + 84)
          let (c₁, lo) ← child lo (here + 88)
          let (c₂, lo) ← child lo (here + 92)
          let (c₃, lo) ← child lo (here + 96)
          let (c₄, lo) ← child lo (here + 100)
          let (c₅, lo) ← child lo (here + 104)
          let (es, _) ← readEntries b here here 5 0 lo
          return (interleave [c₀, c₁, c₂, c₃, c₄, c₅] es, here + 108)
    else .error .unknownNode
termination_by hi

end Rpc.Archive
