import Rpc.Bytes

/-! # Base64

Four symbols stand for three octets. Blanks between symbols are skipped. The last group may be
short, with or without padding up to four symbols; bits beyond its last octet are ignored.
-/
namespace Rpc.Text.Base64

/-- The six bits that a symbol stands for. -/
def value? (c : UInt8) : Option Nat :=
  let n := c.toNat
  if 65 ≤ n ∧ n ≤ 90 then some (n - 65)
  else if 97 ≤ n ∧ n ≤ 122 then some (n - 71)
  else if 48 ≤ n ∧ n ≤ 57 then some (n + 4)
  else if n = 43 then some 62
  else if n = 47 then some 63
  else none

def isBlank (c : UInt8) : Bool := c = 0x20 ∨ (0x09 ≤ c ∧ c ≤ 0x0d)

def isPadding (c : UInt8) : Bool := c = 0x3d

/-- The octets of groups of six bits; one group alone makes none. -/
def octets? : List Nat → Option Bytes
  | [] => some []
  | [_] => none
  | [a, b] => some [UInt8.ofNat (a * 4 + b / 16)]
  | [a, b, c] => some [UInt8.ofNat (a * 4 + b / 16), UInt8.ofNat (b * 16 + c / 4)]
  | a :: b :: c :: d :: rest =>
    (octets? rest).map fun tail => UInt8.ofNat (a * 4 + b / 16) :: UInt8.ofNat (b * 16 + c / 4) ::
      UInt8.ofNat (c * 64 + d) :: tail

/-- Padding stands at the end only, and fills the last group. -/
def decode? (b : Bytes) : Option Bytes :=
  let symbols := b.filter (!isBlank ·)
  let data := symbols.takeWhile (!isPadding ·)
  let padding := symbols.drop data.length
  if padding.all isPadding ∧
      (padding = [] ∨ (padding.length ≤ 2 ∧ (data.length + padding.length) % 4 = 0)) then
    (data.mapM value?).bind octets?
  else none

end Rpc.Text.Base64
