import Rpc.Bytes
import Rpc.Message.Baggage

/-! # Cells of an archive

An archive holds dependent data first and the value itself last. A value is made of cells of fixed
size; a pointer cell tells how far its target lies from the place of the pointer. Text of up to
eight octets stands in its cell and longer text before it.
-/
namespace Rpc.Archive

open Message

/-- Fills up with zeros to `size` octets. -/
def fill (size : Nat) (b : Bytes) : Bytes := b ++ List.replicate (size - b.length) 0

/-- The pointer at `here` to `target`, or the one that says there is none. -/
def pointerCell (target : Option Nat) (here : Nat) : Bytes :=
  match target with
  | some t => Bytes.ofInt32 ((t : Int) - here)
  | none => Bytes.ofInt32 1

/-- The length word of a long text: its two top bits of the first octet tell it from short text. -/
def lengthCode (n : Nat) : Nat := n % 64 + 128 + n / 64 * 256

/-- The part of a text that is written before its cell. -/
def longText (s : Bytes) : Bytes := if s.length ≤ 8 then [] else s

/-- The cell at `here` of a text whose long form stands at `target`. -/
def textCell (s : Bytes) (target here : Nat) : Bytes :=
  if s.length ≤ 8 then s ++ List.replicate (8 - s.length) 0xff
  else Bytes.ofNat 4 (lengthCode s.length) ++ Bytes.ofInt32 ((target : Int) - here)

/-- The cell at `here` of `size` octets that stand at `target`. -/
def vectorCell (target size here : Nat) : Bytes :=
  Bytes.ofInt32 ((target : Int) - here) ++ Bytes.ofNat 4 size

@[simp] theorem length_textCell (s : Bytes) (target here : Nat) :
    (textCell s target here).length = 8 := by
  unfold textCell; split
  · simp only [List.length_append, List.length_replicate]; omega
  · simp

@[simp] theorem length_vectorCell (target size here : Nat) :
    (vectorCell target size here).length = 8 := by simp [vectorCell]

@[simp] theorem length_pointerCell (target : Option Nat) (here : Nat) :
    (pointerCell target here).length = 4 := by cases target <;> simp [pointerCell]

/-- What an entry puts before its node: its key if that is long, then its value. -/
def entryData (e : Entry) : Bytes := longText (Bytes.ofText e.1) ++ e.2

/-- The key cells from `here` on, the data of the entries standing from `pos` on. -/
def keyCells : (pos here : Nat) → List Entry → Bytes
  | _, _, [] => []
  | pos, here, e :: es =>
    textCell (Bytes.ofText e.1) pos here ++ keyCells (pos + (entryData e).length) (here + 8) es

/-- The value cells from `here` on, the data of the entries standing from `pos` on. -/
def valueCells : (pos here : Nat) → List Entry → Bytes
  | _, _, [] => []
  | pos, here, e :: es =>
    vectorCell (pos + (longText (Bytes.ofText e.1)).length) e.2.length here ++
      valueCells (pos + (entryData e).length) (here + 8) es

end Rpc.Archive
