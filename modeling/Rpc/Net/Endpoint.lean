import Rpc.Error
import Rpc.Net.Uri
import Rpc.Text.Quoted

/-! # Endpoints

A client dials an endpoint: a host, a port and whether to use TLS. Its address has one of two
schemes and nothing but a host and perhaps a port; the canonical address names the port always. A
listener is given the address of a socket in one of several forms.
-/
namespace Rpc.Net

inductive EndpointError
  | malformed (address : String) (flaw : UriFlaw)
  | unsupportedScheme (scheme : String)
  | missingHost
  | unexpectedPath (path : String)
  | unexpectedUserInfo
  | unexpectedQuery
  | unexpectedFragment
  | notAnIp (text : String)
  deriving DecidableEq, Repr

namespace EndpointError

def message : EndpointError → String
  | malformed address flaw => "malformed address " ++ Text.quoted address ++ ": " ++ flaw.message
  | unsupportedScheme scheme => "unsupported scheme " ++ Text.quoted scheme
  | missingHost => "address has no host"
  | unexpectedPath path => "address must not have a path, got " ++ Text.quoted path
  | unexpectedUserInfo => "address must not have a user info"
  | unexpectedQuery => "address must not have a query"
  | unexpectedFragment => "address must not have a fragment"
  | notAnIp text => "listener host must be an IP address, got " ++ Text.quoted text

def transportError (e : EndpointError) : TransportError := .invalidEndpoint e.message

end EndpointError

structure Endpoint where
  host : String
  port : UInt16
  tls : Bool
  deriving DecidableEq, Repr

namespace Endpoint

def plainScheme : String := "mortar"

def tlsScheme : String := "mortars"

def schemeFor (tls : Bool) : String := if tls then tlsScheme else plainScheme

/-- The port of an address that names none. -/
def defaultPort (tls : Bool) : UInt16 := if tls then 25156 else 25188

def scheme (e : Endpoint) : String := schemeFor e.tls

/-- Port zero counts as no port. -/
def portOr (tls : Bool) (port : UInt16) : UInt16 := if port = 0 then defaultPort tls else port

def ofSocket (a : Socket) (tls : Bool) : Endpoint := ⟨a.ip.display, portOr tls a.port, tls⟩

/-- Hosts with a colon stand in brackets. -/
def display (e : Endpoint) : String :=
  if e.host.toList.contains ':' then s!"{e.scheme}://[{e.host}]:{e.port}/"
  else s!"{e.scheme}://{e.host}:{e.port}/"

def hostText : Option Uri.Host → Option String
  | some (.name text) => if text.isEmpty then none else some text
  | some (.ip ip) => some ip.display
  | none => none

def ofUri (u : Uri) : Except EndpointError Endpoint := do
  let tls ← if u.scheme = plainScheme then pure false
    else if u.scheme = tlsScheme then pure true
    else throw (.unsupportedScheme u.scheme)
  if u.hasUserInfo then throw .unexpectedUserInfo
  if u.hasQuery then throw .unexpectedQuery
  if u.hasFragment then throw .unexpectedFragment
  if u.path ≠ "" ∧ u.path ≠ "/" then throw (.unexpectedPath u.path)
  match hostText u.host with
  | some host => return ⟨host, portOr tls (u.port.getD 0), tls⟩
  | none => throw .missingHost

def parse (address : String) : Except EndpointError Endpoint :=
  match Uri.parse address with
  | .ok u => ofUri u
  | .error flaw => .error (.malformed address flaw)

end Endpoint

/-- Whether a text holds another one. -/
def holds (part : List Char) : List Char → Bool
  | [] => part.isEmpty
  | c :: cs => part.isPrefixOf (c :: cs) || holds part cs

/-- A text without the brackets around it. -/
def unbracketed (cs : List Char) : List Char :=
  match cs with
  | '[' :: rest => if rest.getLast? = some ']' then rest.dropLast else cs
  | _ => cs

/-- The socket to listen on: the address of an endpoint, a socket, or an address alone. -/
def parseListenAddress (address : String) : Except EndpointError Socket :=
  if holds [':', '/', '/'] address.toList then do
    let e ← Endpoint.parse address
    match Ip.ofText? e.host with
    | some ip => return ⟨ip, e.port, 0⟩
    | none => throw (.notAnIp e.host)
  else
    match Socket.ofText? address with
    | some a => .ok a
    | none =>
      match Ip.ofChars? (unbracketed address.toList) with
      | some ip => .ok ⟨ip, Endpoint.defaultPort false, 0⟩
      | none => if address.isEmpty then .error .missingHost else .error (.notAnIp address)

end Rpc.Net
