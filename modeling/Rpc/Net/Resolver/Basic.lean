import Rpc.Net.Address
import Rpc.Span

/-! # Name resolution

A host name resolves to one address. A host table knows some names; every other resolver knows the
literal forms of addresses too. A cache in front of a resolver remembers answers for a while and
never failures, since those are not what a table or network would say the next time.
-/
namespace Rpc.Net

inductive LookupError
  | notFound (host : String)
  | noAddresses (host : String)
  | failed (host text : String)
  deriving DecidableEq, Repr

def LookupError.message : LookupError → String
  | notFound host => "host not found: " ++ host
  | noAddresses host => "no addresses for host: " ++ host
  | failed host text => "lookup of " ++ host ++ " failed: " ++ text

abbrev Lookup := Except LookupError Ip

/-- Answers literal addresses itself and asks for names. -/
def resolveWith (ask : String → Lookup) (host : String) : Lookup :=
  match Ip.ofText? host with
  | some ip => .ok ip
  | none => ask host

/-- Asks the network for a name. Of several addresses the first one counts. -/
def askNetwork (query : String → Except String (List Ip)) (host : String) : Lookup :=
  match query host with
  | .ok (ip :: _) => .ok ip
  | .ok [] => .error (.noAddresses host)
  | .error text => .error (.failed host text)

/-- Names with their addresses, each name once. -/
structure HostTable where
  hosts : List (String × Ip)

namespace HostTable

def empty : HostTable := ⟨[]⟩

/-- An address given later replaces the one before. -/
def add (t : HostTable) (host : String) (ip : Ip) : HostTable :=
  ⟨(host, ip) :: t.hosts.filter (·.1 ≠ host)⟩

def remove (t : HostTable) (host : String) : HostTable := ⟨t.hosts.filter (·.1 ≠ host)⟩

def addList (t : HostTable) (hosts : List (String × Ip)) : HostTable :=
  hosts.foldl (fun t h => t.add h.1 h.2) t

def ofList (hosts : List (String × Ip)) : HostTable := empty.addList hosts

/-- The table goes before the literal reading of a name. -/
def resolve (t : HostTable) (host : String) : Lookup :=
  match t.hosts.lookup host with
  | some ip => .ok ip
  | none => resolveWith (fun h => .error (.notFound h)) host

end HostTable

/-- How a resolution through a cache ends. -/
inductive Resolution
  | answer (result : Lookup)
  /-- An address was found, and the resolution broke off when its time was to be noted. -/
  | overflow

structure Memory where
  ip : Ip
  expires : Instant

structure Cache where
  lifetime : Nat
  memories : List (String × Memory)

namespace Cache

def new (lifetime : Nat) : Cache := ⟨lifetime, []⟩

/-- The answer remembered for a host, unless its time has come. -/
def remembered (c : Cache) (now : Instant) (host : String) : Option Ip :=
  match c.memories.lookup host with
  | some m => if now < m.expires then some m.ip else none
  | none => none

def forget (c : Cache) (host : String) : Cache :=
  { c with memories := c.memories.filter (·.1 ≠ host) }

def clear (c : Cache) : Cache := { c with memories := [] }

/-- Remembers the answer to a question that was asked at some instant, unless the clock ends before
the time of the answer does. -/
def remember (c : Cache) (asked : Instant) (host : String) (ip : Ip) : Option Cache :=
  (asked.later? c.lifetime).map fun expires =>
    { c with memories := (host, ⟨ip, expires⟩) :: (c.forget host).memories }

/-- Takes the answer to such a question. Only addresses are remembered. -/
def take (c : Cache) (asked : Instant) (host : String) : Lookup → Resolution × Cache
  | .ok ip =>
    match c.remember asked host ip with
    | some after => (.answer (.ok ip), after)
    | none => (.overflow, c)
  | .error e => (.answer (.error e), c)

/-- Resolves through the cache; also tells whether the resolver behind it was asked. -/
def resolve (c : Cache) (now : Instant) (ask : String → Lookup) (host : String) :
    Resolution × Cache × Bool :=
  match c.remembered now host with
  | some ip => (.answer (.ok ip), c, false)
  | none =>
    let r := c.take now host (ask host)
    (r.1, r.2, true)

end Cache

/-- A cache in front of a host table, and how often the table has been asked. -/
structure Counted where
  table : HostTable
  cache : Cache
  lookups : Nat

namespace Counted

def ask (c : Counted) (host : String) : Lookup × Counted :=
  (c.table.resolve host, { c with lookups := c.lookups + 1 })

def resolve (c : Counted) (now : Instant) (host : String) : Resolution × Counted :=
  let r := c.cache.resolve now c.table.resolve host
  (r.1, { c with cache := r.2.1, lookups := if r.2.2 then c.lookups + 1 else c.lookups })

/-- What can be done with the cache and the table behind it. -/
inductive Op
  | resolve (host : String)
  | ask (host : String)
  | add (host : String) (ip : Ip)
  | remove (host : String)
  | forget (host : String)
  | clear
  deriving DecidableEq, Repr

def perform (c : Counted) (now : Instant) : Op → Option Resolution × Counted
  | .resolve host => ((c.resolve now host).1, (c.resolve now host).2)
  | .ask host => (some (.answer (c.ask host).1), (c.ask host).2)
  | .add host ip => (none, { c with table := c.table.add host ip })
  | .remove host => (none, { c with table := c.table.remove host })
  | .forget host => (none, { c with cache := c.cache.forget host })
  | .clear => (none, { c with cache := c.cache.clear })

end Counted

end Rpc.Net
