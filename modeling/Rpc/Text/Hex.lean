import Rpc.Bytes

/-! # Octets in print

Octets are printed as hexadecimal digits, two for each. Long lists are printed by their length and a
fingerprint, which is FNV-1a in 64 bits.
-/
namespace Rpc.Bytes

def digit? (c : Char) : Option Nat :=
  if '0' ≤ c ∧ c ≤ '9' then some (c.toNat - 48)
  else if 'a' ≤ c ∧ c ≤ 'f' then some (c.toNat - 87)
  else none

/-- Reads pairs of digits behind octets that were read before, the latest first. -/
def readHex : Bytes → List Char → Option Bytes
  | before, [] => some before.reverse
  | _, [_] => none
  | before, a :: b :: cs =>
    match digit? a, digit? b with
    | some a, some b => readHex (UInt8.ofNat (a * 16 + b) :: before) cs
    | _, _ => none

/-- Reads what `hex` writes. -/
def ofHex? (s : String) : Option Bytes := readHex [] s.toList

def fingerprint (b : Bytes) : UInt64 :=
  b.foldl (fun h x => (h ^^^ x.toUInt64) * 0x100000001b3) 0xcbf29ce484222325

/-- The digits of a short list, and the length and fingerprint of a long one. -/
def outline (b : Bytes) : String :=
  if b.length ≤ 1024 then b.hex
  else s!"len={b.length},fnv1a64={hex (ofNat 8 b.fingerprint.toNat).reverse}"

end Rpc.Bytes
