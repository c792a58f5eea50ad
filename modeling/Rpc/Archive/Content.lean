import Rpc.Archive.Tree
import Rpc.Archive.Window
import Rpc.Message.Content

/-! # Archived contents

The archived form of headings, baggage, faults and notices. The value ends the archive and stands
at a multiple of four, which is also where reading looks for it.
-/
namespace Rpc.Archive

open Message

/-- The archive of dependent data and of the value that follows it, given its place. -/
def finish (data : Bytes) (value : (here : Nat) → Bytes) : Bytes :=
  let pad := Bytes.padding 4 data.length
  data ++ pad ++ value (data.length + pad.length)

/-- An archive is within the reach of its pointers and its texts within their length word. -/
def bounded (texts : List Bytes) (archive : Bytes) : Except CodecError Bytes :=
  if texts.any (1073741824 ≤ ·.length) || 2147483648 ≤ archive.length then
    .error (.serialization "value too large")
  else .ok archive

def headingBytes (h : Heading) : Bytes :=
  let text := Bytes.ofText h.method
  finish (longText text) (textCell text 0)

def faultBytes (f : Fault) : Bytes :=
  let text := Bytes.ofText f.text
  let early := longText text
  finish (early ++ f.details.getD []) fun here =>
    Bytes.ofNat 4 f.code.toNat ++ textCell text 0 (here + 4) ++
      match f.details with
      | none => List.replicate 12 0
      | some d => [1, 0, 0, 0] ++ vectorCell early.length d.length (here + 16)

def noticeBytes : Notice → Bytes
  | .hello version => fill 16 ([0, 0, 0, 0] ++ Bytes.ofNat 4 version.toNat)
  | .violation code details =>
    let text := Bytes.ofText details
    finish (longText text) fun here =>
      [1, 0, 0, 0] ++ Bytes.ofNat 4 code.toNat ++ textCell text 0 (here + 8)
  | .close => fill 16 [2]

def baggageBytes (b : Baggage) : Bytes :=
  let w := (Tree.ofList b.entries).write 0
  finish w.bytes fun here => pointerCell w.root here ++ Bytes.ofNat 4 b.size

/-- Opens an archive whose value takes `size` octets. -/
def openValue {α : Type} (b : Bytes) (size : Nat) (read : (here : Nat) → Except ArchiveFlaw α) :
    Except CodecError α :=
  match locate 0 b.length ((b.length - size : Nat) : Int) size 4 with
  | .error e => .error (.deserialization e)
  | .ok here =>
    match read here with
    | .error e => .error (.deserialization e)
    | .ok a => .ok a

def readHeading (b : Bytes) : Except CodecError Heading :=
  openValue b 8 fun here => do
    let (text, _) ← readText b 0 here here
    return ⟨text⟩

def readFault (b : Bytes) : Except CodecError Fault :=
  openValue b 24 fun here => do
    let (text, lo) ← readText b 0 here (here + 4)
    let code := UInt32.ofNat (Bytes.wordAt b here 4)
    let tag := Bytes.wordAt b (here + 12) 1
    if tag = 0 then return ⟨code, text, none⟩
    else if tag = 1 then
      let (details, _) ← readVector b lo here (here + 16)
      return ⟨code, text, some details⟩
    else throw .unknownTag

def readNotice (b : Bytes) : Except CodecError Notice :=
  openValue b 16 fun here => do
    let tag := Bytes.wordAt b here 1
    let word := UInt32.ofNat (Bytes.wordAt b (here + 4) 4)
    if tag = 0 then return .hello word
    else if tag = 1 then
      let (details, _) ← readText b 0 here (here + 8)
      return .violation word details
    else if tag = 2 then return .close
    else throw .unknownTag

/-- A baggage of no entries needs no tree; otherwise the tree must hold as many as it says. -/
def readBaggage (b : Bytes) : Except CodecError Baggage :=
  openValue b 8 fun here => do
    let count := Bytes.wordAt b (here + 4) 4
    if count = 0 then return .empty
    let (es, _) ← readNode b 0 here (target b here)
    if es.length = count then return .ofList es
    else throw .wrongCount

end Rpc.Archive

namespace Rpc.Message

open Archive

def Heading.toBytes (h : Heading) : Except CodecError Bytes :=
  bounded [Bytes.ofText h.method] (headingBytes h)

def Heading.ofBytes (b : Bytes) : Except CodecError Heading := readHeading b

def Fault.toBytes (f : Fault) : Except CodecError Bytes :=
  bounded [Bytes.ofText f.text] (faultBytes f)

def Fault.ofBytes (b : Bytes) : Except CodecError Fault := readFault b

def Notice.toBytes (n : Notice) : Except CodecError Bytes :=
  match n with
  | .violation _ details => bounded [Bytes.ofText details] (noticeBytes n)
  | _ => .ok (noticeBytes n)

def Notice.ofBytes (b : Bytes) : Except CodecError Notice := readNotice b

def Baggage.toBytes (b : Baggage) : Except CodecError Bytes :=
  bounded (b.entries.map fun e => Bytes.ofText e.1) (baggageBytes b)

def Baggage.ofBytes (b : Bytes) : Except CodecError Baggage := readBaggage b

end Rpc.Message
