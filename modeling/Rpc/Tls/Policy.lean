import Rpc.Net.ServerName
import Rpc.Span

/-! # Trust in certificates

Each end of a secure stream has a policy: the roots that it trusts, the certificate that it can
show, and perhaps a validator of the application. The public key infrastructure gives a verdict on a
certificate; a validator is told of the verdict and has the last word. What a certificate is stays
open here, with whatever is sent along with it.
-/
namespace Rpc.Tls

open Net

/-- Why a certificate is rejected. -/
inductive Objection
  /-- No root stands behind it. -/
  | unknownIssuer
  /-- The public key infrastructure has something else against it. -/
  | invalid (text : String)
  | unwanted
  deriving DecidableEq, Repr

structure Check (κ : Type) where
  /-- The name that a client expects; a server expects none. -/
  expected : Option ServerName
  certificate : κ
  error : Option Objection

abbrev Validator (κ : Type) := Check κ → Bool

structure Authority (κ : Type) where
  /-- The roots of a client that was told none. -/
  builtIn : List κ
  /-- What speaks against a certificate under some roots, for a name if one is expected. -/
  objects : List κ → Option ServerName → κ → Option Objection

structure ClientPolicy (κ : Type) where
  roots : Option (List κ) := none
  certificate : Option κ := none
  validator : Option (Validator κ) := none
  timeout : Span := .ofSeconds 10

structure ServerPolicy (κ : Type) where
  certificate : κ
  /-- Clients without a certificate are refused. -/
  required : Bool := false
  roots : Option (List κ) := none
  validator : Option (Validator κ) := none
  timeout : Span := .ofSeconds 10

variable {κ : Type}

/-- Where nothing is trusted, nothing is asked. -/
def Authority.check (a : Authority κ) (roots : List κ) (expected : Option ServerName) (k : κ) :
    Check κ :=
  ⟨expected, k, if roots.isEmpty then some .unknownIssuer else a.objects roots expected k⟩

/-- The validator decides, or else the verdict. -/
def Check.decide (c : Check κ) (validator : Option (Validator κ)) : Except Objection Unit :=
  match validator, c.error with
  | some accepts, error => if accepts c then .ok () else .error (error.getD .unwanted)
  | none, none => .ok ()
  | none, some error => .error error

namespace ClientPolicy

def check (p : ClientPolicy κ) (a : Authority κ) (name : ServerName) (k : κ) : Check κ :=
  a.check (p.roots.getD a.builtIn) (some name) k

def verify (p : ClientPolicy κ) (a : Authority κ) (name : ServerName) (k : κ) :
    Except Objection Unit := (p.check a name k).decide p.validator

def describe (p : ClientPolicy κ) : String :=
  s!"TlsClientConfig \x7b has_client_cert: {p.certificate.isSome}, handshake_timeout: " ++
    p.timeout.render ++ ", .. \x7d"

end ClientPolicy

namespace ServerPolicy

def asks (p : ServerPolicy κ) : Bool := p.required || p.roots.isSome || p.validator.isSome

def check (p : ServerPolicy κ) (a : Authority κ) (k : κ) : Check κ :=
  a.check (p.roots.getD []) none k

def verify (p : ServerPolicy κ) (a : Authority κ) (k : κ) : Except Objection Unit :=
  (p.check a k).decide p.validator

def describe (p : ServerPolicy κ) : String :=
  s!"TlsServerConfig \x7b client_certificate_required: {p.required}, handshake_timeout: " ++
    p.timeout.render ++ ", .. \x7d"

end ServerPolicy

end Rpc.Tls
