import Rpc.Text.Digits
import Rpc.Text.Pieces

/-! # Internet addresses

Addresses of four octets or eight groups, and sockets on them. Each has one canonical text; the
longest run of at least two zero groups is left out of it, the first of several. Reading accepts
more: groups of either case, zeros in front, any one run of zeros left out, and the last two groups
as four octets.
-/
namespace Rpc.Net

structure Ipv4 where
  a : UInt8
  b : UInt8
  c : UInt8
  d : UInt8
  deriving DecidableEq, Repr

structure Ipv6 where
  groups : List UInt16
  length_groups : groups.length = 8
  deriving DecidableEq, Repr

inductive Ip
  | v4 (ip : Ipv4)
  | v6 (ip : Ipv6)
  deriving DecidableEq, Repr

namespace Ipv4

def octet? (cs : List Char) : Option UInt8 :=
  ((Text.plainDecimal? cs).filter (· < 256)).map UInt8.ofNat

def ofChars? (cs : List Char) : Option Ipv4 :=
  match Text.pieces '.' cs with
  | [a, b, c, d] =>
    match octet? a, octet? b, octet? c, octet? d with
    | some a, some b, some c, some d => some ⟨a, b, c, d⟩
    | _, _, _, _ => none
  | _ => none

def display (ip : Ipv4) : String := s!"{ip.a}.{ip.b}.{ip.c}.{ip.d}"

/-- The address as the last two groups of a longer one. -/
def groups (ip : Ipv4) : List UInt16 :=
  [ip.a.toUInt16 * 256 + ip.b.toUInt16, ip.c.toUInt16 * 256 + ip.d.toUInt16]

end Ipv4

namespace Ipv6

/-- The groups of a text between colons; only the last piece may be written as four octets. -/
def groups? : List (List Char) → Option (List UInt16)
  | [] => some []
  | p :: ps =>
    match Text.hexGroup? p with
    | some n => (groups? ps).map (UInt16.ofNat n :: ·)
    | none => if ps.isEmpty then (Ipv4.ofChars? p).map Ipv4.groups else none

/-- Groups in which every piece is one group. -/
def plainGroups? (ps : List (List Char)) : Option (List UInt16) :=
  ps.mapM fun p => (Text.hexGroup? p).map UInt16.ofNat

/-- The pieces of a text that may be empty. -/
def fields (cs : List Char) : List (List Char) := if cs.isEmpty then [] else Text.pieces ':' cs

/-- Cuts a text at its first double colon. -/
def cut? : List Char → Option (List Char × List Char)
  | ':' :: ':' :: cs => some ([], cs)
  | c :: cs => (cut? cs).map fun (l, r) => (c :: l, r)
  | [] => none

def ofGroups? (gs : List UInt16) : Option Ipv6 :=
  if h : gs.length = 8 then some ⟨gs, h⟩ else none

/-- A double colon stands for at least one group of zeros. -/
def ofChars? (cs : List Char) : Option Ipv6 :=
  match cut? cs with
  | none => (groups? (Text.pieces ':' cs)).bind ofGroups?
  | some (head, tail) =>
    match plainGroups? (fields head), groups? (fields tail) with
    | some h, some t =>
      if h.length + t.length < 8 then
        ofGroups? (h ++ List.replicate (8 - h.length - t.length) 0 ++ t)
      else none
    | _, _ => none

/-- The length of the run of zeros at the front. -/
def zeros (gs : List UInt16) : Nat := (gs.takeWhile (· = 0)).length

/-- The place and length of the first of the longest runs of zeros. -/
def longestRun : List UInt16 → Nat × Nat
  | [] => (0, 0)
  | g :: gs =>
    let here := zeros (g :: gs)
    let later := longestRun gs
    if later.2 ≤ here then (0, here) else (later.1 + 1, later.2)

def hexText (g : UInt16) : String := String.ofList (Nat.toDigits 16 g.toNat)

def joined (gs : List UInt16) : String := ":".intercalate (gs.map hexText)

/-- An address that only wraps four octets shows them. -/
def display (ip : Ipv6) : String :=
  match ip.groups with
  | [0, 0, 0, 0, 0, 0xffff, g, h] =>
    "::ffff:" ++ (Ipv4.mk (g / 256).toUInt8 g.toUInt8 (h / 256).toUInt8 h.toUInt8).display
  | gs =>
    let run := longestRun gs
    if 1 < run.2 then joined (gs.take run.1) ++ "::" ++ joined (gs.drop (run.1 + run.2))
    else joined gs

end Ipv6

namespace Ip

def ofChars? (cs : List Char) : Option Ip :=
  match Ipv4.ofChars? cs with
  | some ip => some (.v4 ip)
  | none => (Ipv6.ofChars? cs).map .v6

def ofText? (s : String) : Option Ip := ofChars? s.toList

def display : Ip → String
  | v4 ip => ip.display
  | v6 ip => ip.display

def loopback : Ip := .v4 ⟨127, 0, 0, 1⟩

end Ip

/-- An address and a port. A link-local address may also have a scope, zero if it has none. -/
structure Socket where
  ip : Ip
  port : UInt16
  scope : UInt32 := 0
  deriving DecidableEq, Repr

namespace Socket

def port? (cs : List Char) : Option UInt16 := (Text.decimalBelow? 65536 cs).map UInt16.ofNat

/-- Reads a long address with perhaps a scope behind a percent sign. -/
def scoped? (cs : List Char) : Option (Ipv6 × UInt32) :=
  match Text.pieces '%' cs with
  | [ip] => (Ipv6.ofChars? ip).map (·, 0)
  | [ip, scope] =>
    match Ipv6.ofChars? ip, Text.decimalBelow? 4294967296 scope with
    | some ip, some n => some (ip, UInt32.ofNat n)
    | _, _ => none
  | _ => none

/-- Long addresses stand in brackets. -/
def ofText? (s : String) : Option Socket :=
  match s.toList with
  | '[' :: cs =>
    match Text.pieces ']' cs with
    | [inner, ':' :: port] =>
      match scoped? inner, port? port with
      | some (ip, scope), some port => some ⟨.v6 ip, port, scope⟩
      | _, _ => none
    | _ => none
  | cs =>
    match Text.pieces ':' cs with
    | [ip, port] =>
      match Ipv4.ofChars? ip, port? port with
      | some ip, some port => some ⟨.v4 ip, port, 0⟩
      | _, _ => none
    | _ => none

def display (a : Socket) : String :=
  match a.ip with
  | .v4 ip => s!"{ip.display}:{a.port}"
  | .v6 ip =>
    if a.scope = 0 then s!"[{ip.display}]:{a.port}"
    else s!"[{ip.display}%{a.scope}]:{a.port}"

end Socket

end Rpc.Net
