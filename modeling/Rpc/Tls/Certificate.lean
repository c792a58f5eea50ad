import Rpc.Bytes

/-! # Certificates that anchor trust

A certificate is nested tagged values: the signed part, the algorithm and the signature. Of the
signed part a trust anchor keeps the subject, its key and the constraints on names. A certificate
of version 3 is read with its extensions; one of the first version names no version and has none.
-/
namespace Rpc.Tls

structure Tagged where
  tag : UInt8
  content : Bytes

namespace Tagged

def integer : UInt8 := 0x02
def bitString : UInt8 := 0x03
def octetString : UInt8 := 0x04
def identifier : UInt8 := 0x06
def boolean : UInt8 := 0x01
def sequence : UInt8 := 0x30

def field (n : UInt8) : UInt8 := 0xa0 + n

/-- The length in front of a content, in its shortest form, and what follows. Longer contents than
the greatest length of two octets less one are refused. -/
def length? : Bytes → Option (Nat × Bytes)
  | 0x81 :: a :: rest => if a < 0x80 then none else some (a.toNat, rest)
  | 0x82 :: a :: b :: rest =>
    let size := 256 * a.toNat + b.toNat
    if size < 0x100 ∨ 0xffff ≤ size then none else some (size, rest)
  | a :: rest => if a < 0x80 then some (a.toNat, rest) else none
  | [] => none

/-- The first tagged value, and what follows. A tag takes one octet. -/
def read? : Bytes → Option (Tagged × Bytes)
  | [] => none
  | tag :: rest =>
    if tag &&& 0x1f = 0x1f then none
    else
      match length? rest with
      | some (size, rest) =>
        if rest.length < size then none else some (⟨tag, rest.take size⟩, rest.drop size)
      | none => none

/-- As many tagged values as there is room for. -/
def readAll? : (room : Nat) → Bytes → Option (List Tagged)
  | _, [] => some []
  | 0, _ => none
  | n + 1, b =>
    match read? b with
    | some (t, rest) => (readAll? n rest).map (t :: ·)
    | none => none

def parts? (b : Bytes) : Option (List Tagged) := readAll? b.length b

/-- The content of a value that has the tag and is followed by nothing. -/
def only? (tag : UInt8) (b : Bytes) : Option Bytes :=
  match read? b with
  | some (t, []) => if t.tag = tag then some t.content else none
  | _ => none

/-- The contents of values if they have these tags in this order. -/
def contents? (tags : List UInt8) (ts : List Tagged) : Option (List Bytes) :=
  if ts.map (·.tag) = tags then some (ts.map (·.content)) else none

end Tagged

/-! ## Extensions -/

structure Extension where
  id : Bytes
  critical : Bool
  value : Bytes

namespace Extension

/-- An extension is not critical unless it says so. -/
def ofContent? (b : Bytes) : Option Extension := do
  let ts ← Tagged.parts? b
  match (ts.map (·.tag) : List UInt8), (ts.map (·.content) : List Bytes) with
  | [0x06, 0x04], [id, value] => return ⟨id, false, value⟩
  | [0x06, 0x01, 0x04], [id, [0xff], value] => return ⟨id, true, value⟩
  | [0x06, 0x01, 0x04], [id, [0x00], value] => return ⟨id, false, value⟩
  | _, _ => none

inductive Kind
  | keyUsage | alternativeNames | basicConstraints | nameConstraints | revocationPoints
  | extendedKeyUsage
  deriving DecidableEq, Repr

def kind? (e : Extension) : Option Kind :=
  match e.id with
  | [0x55, 0x1d, 15] => some .keyUsage
  | [0x55, 0x1d, 17] => some .alternativeNames
  | [0x55, 0x1d, 19] => some .basicConstraints
  | [0x55, 0x1d, 30] => some .nameConstraints
  | [0x55, 0x1d, 31] => some .revocationPoints
  | [0x55, 0x1d, 37] => some .extendedKeyUsage
  | _ => none

/-- An extension of a known kind holds a sequence, except for the usage of the key, which is
looked at where it matters. One of no known kind is passed over, even a critical one: trust in an
anchor comes from having been told so, not from what its certificate says. -/
def isAcceptable (e : Extension) : Bool :=
  match e.kind? with
  | none | some .keyUsage => true
  | some _ => (Tagged.only? Tagged.sequence e.value).isSome

/-- Extensions from the content of their field; none of a known kind comes twice. -/
def listOf? (b : Bytes) : Option (List Extension) := do
  let ts ← Tagged.parts? (← Tagged.only? Tagged.sequence b)
  let es ← ts.mapM fun t => if t.tag = Tagged.sequence then ofContent? t.content else none
  if es.all isAcceptable ∧ (es.filterMap kind?).Nodup then some es else none

end Extension

/-! ## Anchors -/

/-- Whose signatures are trusted. -/
structure Anchor where
  subject : Bytes
  key : Bytes
  nameConstraints : Option Bytes

namespace Anchor

/-- The signed part of version 3: version, serial number, algorithm, issuer, validity, subject,
key and perhaps extensions. The algorithm is the one named outside of the signed part. -/
def ofVersion3? (algorithm : Bytes) (ts : List Tagged) : Option Anchor := do
  let seven := [Tagged.field 0, Tagged.integer] ++ List.replicate 5 Tagged.sequence
  match ← Tagged.contents? seven (ts.take 7), ts.drop 7 with
  | [version, _, named, _, _, subject, key], rest =>
    if version ≠ [Tagged.integer, 1, 2] ∨ named ≠ algorithm then none
    else
      match rest with
      | [] => return ⟨subject, key, none⟩
      | [t] =>
        if t.tag ≠ Tagged.field 3 then none
        else
          let es ← Extension.listOf? t.content
          return ⟨subject, key, (es.find? (·.kind? = some .nameConstraints)).map (·.value)⟩
      | _ => none
  | _, _ => none

/-- The signed part of the first version: serial number, algorithm, issuer, validity, subject and
key. -/
def ofVersion1? (ts : List Tagged) : Option Anchor := do
  match ← Tagged.contents? (Tagged.integer :: List.replicate 5 Tagged.sequence) ts with
  | [_, _, _, _, subject, key] => return ⟨subject, key, none⟩
  | _ => none

/-- The anchor that a certificate stands for. Its signature fills its last octet. -/
def ofCertificate? (b : Bytes) : Option Anchor := do
  let ts ← Tagged.parts? (← Tagged.only? Tagged.sequence b)
  match ← Tagged.contents? [Tagged.sequence, Tagged.sequence, Tagged.bitString] ts with
  | [signed, algorithm, 0 :: _] =>
    let fields ← Tagged.parts? signed
    ofVersion3? algorithm fields <|> ofVersion1? fields
  | _ => none

end Anchor

end Rpc.Tls
