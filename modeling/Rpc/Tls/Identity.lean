import Rpc.Tls.Pem
import Rpc.Tls.Policy

/-! # Self-signed identities

Certificates known by a name and the host that they are made for. Such a certificate counts where
it is a root itself, for its own host only; no public root stands behind it. A private key belongs
to one identity and fits no other.
-/
namespace Rpc.Tls

open Net

structure Identity where
  name : String
  host : String
  deriving DecidableEq, Repr

namespace Identity

/-- A name and a host around an at sign; without one the host is this machine. -/
def ofText (s : String) : Identity :=
  let cs := s.toList
  match cs.dropWhile (· ≠ '@') with
  | _ :: host => ⟨String.ofList (cs.takeWhile (· ≠ '@')), String.ofList host⟩
  | [] => ⟨s, "localhost"⟩

def serves (i : Identity) (name : ServerName) : Bool := ServerName.ofText? i.host = some name

/-- No public root stands behind an identity. -/
def authority : Authority Identity where
  builtIn := []
  objects roots expected i :=
    if roots.contains i then
      match expected with
      | some name => if i.serves name then none else some (.invalid "not valid for the name")
      | none => none
    else some .unknownIssuer

end Identity

/-- A certificate with the private key that is to go with it. -/
structure Credentials where
  identity : Identity
  keyOwner : Identity
  chained : Bool := true

def Credentials.isSound (c : Credentials) : Bool := c.chained && c.keyOwner = c.identity

/-- The validators that go by a name: accept all, accept what the infrastructure rejects, accept
clients, accept this machine; all others reject. -/
def Validator.named : String → Validator Identity
  | "accept" => fun _ => true
  | "only_bad" => fun c => c.error.isSome
  | "server_side" => fun c => c.expected.isNone
  | "named" => fun c => c.expected.map ServerName.display = some "localhost"
  | _ => fun _ => false

inductive SetupFlaw
  | file (flaw : FileFlaw)
  | unsound (cause : TransportError)

def unsound (role : String) : TransportError :=
  .tlsAuthentication ("invalid " ++ role ++ " tls config: key and certificate differ")

/-- What a server policy is made of. One that comes from files has the certificate and nothing
else, and whatever is wrong with it counts against the files. -/
structure ServerSetup where
  credentials : Credentials
  fromFiles : Bool := false
  required : Bool := false
  roots : Option (List Identity) := none
  validator : Option (Validator Identity) := none
  timeout : Span

def ServerSetup.build (s : ServerSetup) : Except SetupFlaw (ServerPolicy Identity) :=
  let k := s.credentials.identity
  match s.credentials.isSound, s.fromFiles with
  | true, true => .ok { certificate := k, timeout := s.timeout }
  | true, false => .ok ⟨k, s.required, s.roots, s.validator, s.timeout⟩
  | false, true => .error (.file .other)
  | false, false => .error (.unsound (unsound "server"))

structure ClientSetup where
  credentials : Option Credentials := none
  roots : Option (List Identity) := none
  validator : Option (Validator Identity) := none
  timeout : Span

def ClientSetup.build (s : ClientSetup) : Except SetupFlaw (ClientPolicy Identity) :=
  if s.credentials.all Credentials.isSound then
    .ok ⟨s.roots, s.credentials.map Credentials.identity, s.validator, s.timeout⟩
  else .error (.unsound (unsound "client"))

end Rpc.Tls
