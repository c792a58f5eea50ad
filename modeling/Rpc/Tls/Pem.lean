import Rpc.Text.Base64
import Rpc.Tls.Certificate

/-! # Armoured files

Certificates, keys and revocation lists are kept in text files, in sections between a line that
begins and a line that ends them, in base64. Text outside of sections is skipped, and so are
sections of unknown kinds.
-/
namespace Rpc.Tls

inductive FileFlaw
  | notFound
  | invalidData
  | other
  deriving DecidableEq, Repr

namespace Pem

/-- The kinds of sections whose content is read. -/
inductive Section
  | certificate | publicKey | rsaKey | key | ecKey | revocations | request | hello
  deriving DecidableEq, Repr

def Section.label : Section → String
  | certificate => "CERTIFICATE" | publicKey => "PUBLIC KEY" | rsaKey => "RSA PRIVATE KEY"
  | key => "PRIVATE KEY" | ecKey => "EC PRIVATE KEY" | revocations => "X509 CRL"
  | request => "CERTIFICATE REQUEST" | hello => "ECHCONFIG"

def Section.ofLabel? (label : Bytes) : Option Section :=
  [certificate, publicKey, rsaKey, key, ecKey, revocations, request, hello].find?
    fun s => Bytes.ofText s.label = label

def Section.isKey : Section → Bool
  | rsaKey | key | ecKey => true
  | _ => false

structure Item where
  kind : Section
  content : Bytes
  deriving DecidableEq, Repr

/-- Cuts behind every line end of either kind. -/
def lines : Bytes → List Bytes
  | [] => []
  | b :: bs =>
    if b = 0x0a ∨ b = 0x0d then [b] :: lines bs
    else
      match lines bs with
      | [] => [[b]]
      | l :: ls => (b :: l) :: ls

def beginMark : Bytes := Bytes.ofText "-----BEGIN "

def endMark (label : Bytes) : Bytes := Bytes.ofText "-----END " ++ label ++ Bytes.ofText "-----"

/-- The label on a line that begins a section. The line ends in exactly five dashes, among which
blanks do not count. -/
def label? (line : Bytes) : Option Bytes :=
  let tail := line.reverse.takeWhile fun b => b = 0x2d ∨ b = 0x0a ∨ b = 0x0d ∨ b = 0x20
  let dashes := (tail.reverse.dropWhile (· ≠ 0x2d))
  if dashes.count 0x2d = 5 then
    some ((line.take (line.length - dashes.length)).drop beginMark.length)
  else none

/-- The sections of a file up to a flaw, if it has one. -/
structure Contents where
  items : List Item
  flaw : Option FileFlaw

/-- Reads on with the label of the section that stands open and the lines collected in it. -/
def readLines (label : Option Bytes) (collected : Bytes) : List Bytes → Contents
  | [] => ⟨[], if label.isSome then some .invalidData else none⟩
  | line :: rest =>
    if beginMark.isPrefixOf line then
      match label? line with
      | some l => readLines (some l) collected rest
      | none => ⟨[], some .invalidData⟩
    else
      match label with
      | none => readLines none collected rest
      | some l =>
        if (endMark l).isPrefixOf line then
          match Section.ofLabel? l with
          | none => readLines none [] rest
          | some kind =>
            match Text.Base64.decode? collected with
            | none => ⟨[], some .invalidData⟩
            | some content =>
              let c := readLines none [] rest
              { c with items := ⟨kind, content⟩ :: c.items }
        else readLines (some l) (collected ++ line) rest

def read (b : Bytes) : Contents := readLines none [] (lines b)

/-- All sections of one kind; a flaw anywhere in the file counts. -/
def all (kind : Section) (c : Contents) : Except FileFlaw (List Bytes) :=
  match c.flaw with
  | some f => .error f
  | none => .ok ((c.items.filter (·.kind = kind)).map (·.content))

/-- The content of a file, or none if there is no such file. -/
abbrev File := Option Bytes

def open? (f : File) : Except FileFlaw Contents :=
  match f with
  | some b => .ok (read b)
  | none => .error .notFound

def certificates (f : File) : Except FileFlaw (List Bytes) := do all .certificate (← open? f)

def revocations (f : File) : Except FileFlaw (List Bytes) := do all .revocations (← open? f)

/-- The first key; what follows it is not read. -/
def privateKey (f : File) : Except FileFlaw Bytes := do
  let c ← open? f
  match c.items.find? (·.kind.isKey) with
  | some i => return i.content
  | none => throw (c.flaw.getD .other)

/-- Whom the certificates of a file make trusted; each must stand for an anchor. -/
def roots (f : File) : Except FileFlaw (List Anchor) := do
  match (← certificates f).mapM Anchor.ofCertificate? with
  | some anchors => return anchors
  | none => throw .other

end Pem

end Rpc.Tls
