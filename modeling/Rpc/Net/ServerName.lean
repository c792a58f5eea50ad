import Rpc.Error
import Rpc.Net.Address
import Rpc.Text.Quoted

/-! # Server names

The name by which a client checks the certificate of a server: an address, or a domain of labels.
A label has at most 63 letters, digits, underscores and inner hyphens; the last one is not all
digits. One dot may end the name, which has at most 253 characters.
-/
namespace Rpc.Net

inductive ServerName
  | ip (ip : Ip)
  | domain (text : String)
  deriving DecidableEq, Repr

namespace ServerName

def isLabelChar (c : Char) : Bool := c.isAlphanum || c == '-' || c == '_'

def isLabel (cs : List Char) : Bool :=
  !cs.isEmpty && cs.length ≤ 63 && cs.all isLabelChar && cs.head? ≠ some '-' &&
    cs.getLast? ≠ some '-'

def isDomain (cs : List Char) : Bool :=
  let labels := Text.pieces '.' cs
  let named := if labels.getLast? = some [] then labels.dropLast else labels
  !named.isEmpty && named.all isLabel && !(named.getLastD []).all Char.isDigit && cs.length ≤ 253

def ofText? (s : String) : Option ServerName :=
  match Ip.ofText? s with
  | some a => some (.ip a)
  | none => if isDomain s.toList then some (.domain s) else none

def display : ServerName → String
  | .ip a => a.display
  | .domain text => text

def parse (s : String) : Except TransportError ServerName :=
  match ofText? s with
  | some n => .ok n
  | none =>
    .error (.tlsAuthentication ("invalid server name " ++ Text.quoted s ++ ": invalid dns name"))

end ServerName

end Rpc.Net
