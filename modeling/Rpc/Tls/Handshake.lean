import Rpc.Error
import Rpc.Tls.Policy

/-! # Negotiating a stream

A client and a server agree on a plain or a secure stream. The handshake of a secure one is run by a
library, which each end tells what to show and how to look at what the other shows. The client is
done before the server has looked at what it shows, so a server that refuses ends a stream that the
client holds for good; the client learns of it when it next reads.
-/
namespace Rpc.Tls

open Net

/-! ## The handshake -/

structure ClientPart (κ : Type) where
  certificate : Option κ
  verify : κ → Except Objection Unit

structure Scrutiny (κ : Type) where
  /-- A client that shows nothing is turned down. -/
  mandatory : Bool
  verify : κ → Except Objection Unit

/-- What a server brings along. Without a scrutiny it asks for no certificate. -/
structure ServerPart (κ : Type) where
  certificate : κ
  scrutiny : Option (Scrutiny κ)

inductive Breach
  | objection (cause : Objection)
  | nothingShown
  | certificateAlert
  | alert
  deriving DecidableEq, Repr

structure Handshake (κ : Type) where
  asked : Bool
  shown : Option κ
  client : Except Breach Unit
  server : Except Breach Unit

/-- What runs the handshakes. -/
abbrev Library (κ : Type) := ClientPart κ → ServerPart κ → Handshake κ

variable {κ : Type}

def ServerPart.judge (s : ServerPart κ) (shown : Option κ) : Except Breach Unit :=
  match s.scrutiny, shown with
  | none, _ => .ok ()
  | some q, some k => (q.verify k).mapError .objection
  | some q, none => if q.mandatory then .error .nothingShown else .ok ()

/-- The client looks first, and shows its own certificate only to a server that asks. -/
def Library.standard : Library κ := fun c s =>
  let asked := s.scrutiny.isSome
  match c.verify s.certificate with
  | .error e => ⟨asked, none, .error (.objection e), .error .alert⟩
  | .ok () =>
    let shown := if asked then c.certificate else none
    ⟨asked, shown, .ok (), s.judge shown⟩

/-! ## What the ends make of it -/

structure Facts where
  secure : Bool
  /-- The end takes the client for authenticated, too. -/
  authenticated : Bool
  certificateMissing : Bool
  deriving DecidableEq, Repr

def Facts.plain : Facts := ⟨false, false, false⟩

def refused (host : String) : TransportError :=
  .tlsAuthentication ("handshake with " ++ host ++ " failed")

def serverRefused : TransportError := .tlsAuthentication "handshake failed"

namespace ClientPolicy

def part (p : ClientPolicy κ) (a : Authority κ) (name : ServerName) : ClientPart κ :=
  ⟨p.certificate, p.verify a name⟩

/-- The client goes by what it could show. -/
def conclude (p : ClientPolicy κ) (host : String) (h : Handshake κ) : Except TransportError Facts :=
  match h.client with
  | .ok () => .ok ⟨true, p.certificate.isSome, p.certificate.isNone && h.asked⟩
  | .error .certificateAlert => .error .clientCertificateRequired
  | .error _ => .error (refused host)

end ClientPolicy

namespace ServerPolicy

/-- Showing nothing is no fault in the handshake, so whether that will do is looked at after it. -/
def part (p : ServerPolicy κ) (a : Authority κ) : ServerPart κ :=
  ⟨p.certificate, if p.asks then some ⟨false, p.verify a⟩ else none⟩

def conclude (p : ServerPolicy κ) (h : Handshake κ) : Except TransportError Facts :=
  match h.server with
  | .ok () =>
    if p.required && h.shown.isNone then .error .clientCertificateRequired
    else .ok ⟨true, h.shown.isSome, false⟩
  | .error .nothingShown => .error .clientCertificateRequired
  | .error _ => .error serverRefused

end ServerPolicy

structure Outcome where
  client : Except TransportError Facts
  server : Except TransportError Facts

/-- A client that can make no name of the host goes away. -/
def meet (l : Library κ) (a : Authority κ) (host : String) (c : ClientPolicy κ)
    (s : ServerPolicy κ) : Outcome :=
  match ServerName.parse host with
  | .error e => ⟨.error e, .error serverRefused⟩
  | .ok name =>
    let h := l (c.part a name) (s.part a)
    ⟨c.conclude host h, s.conclude h⟩

/-- Each end has a policy if it wants a secure stream. A plain server makes a connection for any
client and learns later what it talks to. -/
def negotiate (l : Library κ) (a : Authority κ) (host : String) :
    Option (ClientPolicy κ) → Option (ServerPolicy κ) → Outcome
  | none, none => ⟨.ok .plain, .ok .plain⟩
  | some c, some s => meet l a host c s
  | some _, none =>
    ⟨match ServerName.parse host with
      | .error e => .error e
      | .ok _ => .error (refused host), .ok .plain⟩
  | none, some _ => ⟨.ok .plain, .error serverRefused⟩

/-! ## What a refused client finds -/

/-- Why the client finds its stream gone that the server refused. -/
inductive Parting
  | closed
  | fault (fault : IoFault)
  deriving DecidableEq, Repr

def parting : TransportError → Parting
  | .clientCertificateRequired => .closed
  | _ => .fault ⟨.other, "stream refused"⟩

end Rpc.Tls
