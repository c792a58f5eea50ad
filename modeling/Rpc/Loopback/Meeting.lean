import Rpc.Loopback.Party
import Rpc.Loopback.Trial
import Rpc.Net.Network
import Rpc.Tls.Handshake

/-! # Two transports on one machine

A server transport makes listeners and a client transport dials them. Every connection that comes
about is a link of two parties. After each act everything runs until nothing more happens.
-/
namespace Rpc

open Layer Message Tls

/-- What the receive loop of a refused client finds. -/
def Tls.Parting.incoming : Parting → Incoming
  | .closed => .ended
  | .fault f => .broken f

/-- A connection with both its ends. A client whose start failed has no name for it. -/
structure Link where
  name : Option String
  client : Party Journal
  clientFacts : Facts
  /-- The server may have refused to make a connection. -/
  server : Option (Party Journal)
  serverFacts : Facts
  hall : Nat

namespace Link

/-- What each end has written arrives at the other. -/
def exchange (l : Link) : Link :=
  match l.server with
  | none => { l with client := l.client.emptied }
  | some s =>
    let s := l.client.written.foldl (fun s t => s.receive (t.arriving s.profile.limit)) s
    let c := s.written.foldl (fun c t => c.receive (t.arriving c.profile.limit)) l.client.emptied
    { l with client := c, server := some s.emptied }

/-- A request causes an answer and an answer causes nothing, so both ends are at rest after a few
exchanges. -/
def settle (l : Link) : Link := l.exchange.exchange.exchange

def update (l : Link) (side : Side) (f : Party Journal → Party Journal) : Link :=
  (match side with
    | .client => { l with client := f l.client }
    | .server => { l with server := l.server.map f }).settle

def party? (l : Link) : Side → Option (Party Journal)
  | .client => some l.client
  | .server => l.server

def seen (l : Link) : Link := { l with client := l.client.seen, server := l.server.map Party.seen }

/-- Whether the server's end is among the live connections of a listener. -/
def isLiveIn (l : Link) (hall : Nat) : Bool :=
  l.hall = hall && match l.server with
    | some s => s.connection.phase ≠ .disconnected
    | none => false

end Link

structure Hall where
  listener : Listener
  accepted : Nat := 0
  refused : Nat := 0

/-- A caller of a call, found by its tag. -/
structure Caller where
  tag : String
  link : Nat
  side : Side
  number : Nat

structure Meeting where
  network : Net.Network
  server : TrialTransport
  client : TrialTransport
  /-- The last one is the current one. -/
  halls : List Hall
  links : List Link
  /-- The latest first. -/
  callers : List Caller
  nextCaller : Nat
  nextName : Nat
  metrics : Metrics
  /-- Whether the last verdict that a validator was told of was bad. -/
  clientVerdictBad : Bool
  serverVerdictBad : Bool

namespace Meeting

/-- Whom an errand goes through: a connection of the client by its name, or a live connection of
the current listener by its age. -/
inductive Target
  | named (name : String)
  | accepted (index : Nat)

inductive Address
  /-- The current listener, under some host name. -/
  | here (tls : Bool) (host : String)
  | there (address : String)

inductive Act
  | start
  | connect (name : String) (address : Address)
  | errand (target : Target) (e : Errand)
  | stopConnection (target : Target)
  | cancel (tag : String)
  | abandon (tag : String)
  | release (payload : Bytes)
  | stopListener
  | stopServer
  | newListener (address : String)
  | status

inductive Result
  | nothing
  | started
  | connected (facts : Facts) (phase : Phase)
  | noConnection
  | failed (cause : TransportError)
  | sent (ending : Ending)
  | released (found : Bool)
  | listener (address description : String)

structure Observation where
  result : Result
  done : List (String × Ending)
  connections : List (String × Phase × Nat)
  live : List (Phase × Nat × Facts)
  accepted : Nat
  refused : Nat
  stopped : Bool
  serverHeard : List Heard
  clientHeard : List Heard

/-- The server has a listener that is not started. -/
def new (n : Net.Network) (server client : TrialTransport) : Meeting where
  network := n
  server := server
  client := client
  halls := [{ listener := .new ⟨.loopback, 0, 0⟩ }]
  links := []
  callers := []
  nextCaller := 0
  nextName := 1
  metrics := .empty
  clientVerdictBad := false
  serverVerdictBad := false

def current (m : Meeting) : Nat := m.halls.length - 1

def hall? (m : Meeting) : Option Hall := m.halls.getLast?

def updateHall (m : Meeting) (hall : Nat) (f : Hall → Hall) : Meeting :=
  { m with halls := m.halls.modify hall f }

def updateLink (m : Meeting) (link : Nat) (side : Side) (f : Party Journal → Party Journal) :
    Meeting :=
  { m with links := m.links.modify link (·.update side f) }

/-- The live connections of a listener, the oldest first. -/
def liveIn (m : Meeting) (hall : Nat) : List Nat :=
  (List.range m.links.length).filter fun i =>
    match m.links[i]? with
    | some l => l.isLiveIn hall
    | none => false

def find? (m : Meeting) : Target → Option (Nat × Side)
  | .named name =>
    ((List.range m.links.length).reverse.find? fun i =>
      (m.links[i]?.bind Link.name) = some name).map (·, .client)
  | .accepted index => ((m.liveIn m.current)[index]?).map (·, .server)

/-! ## Listeners -/

def bound (m : Meeting) : List Net.Socket := m.halls.filterMap (·.listener.bound)

def listening (m : Meeting) : List Net.Socket :=
  m.halls.filterMap fun h => if h.listener.stopped then none else h.listener.bound

def start (m : Meeting) : Result × Meeting :=
  match m.hall? with
  | none => (.nothing, m)
  | some h =>
    let r := h.listener.start (m.network.bind m.bound m.listening h.listener.requested)
    (match r.1 with | .ok _ => .started | .error e => .failed e,
      m.updateHall m.current ({ · with listener := r.2 }))

def stopLinks (m : Meeting) (links : List Nat) : Meeting :=
  links.foldl (fun m link => m.updateLink link .server (·.act .stop)) m

def stopHall (m : Meeting) (hall : Nat) : Meeting :=
  (m.updateHall hall fun h => { h with listener := h.listener.stop }).stopLinks (m.liveIn hall)

def stopServer (m : Meeting) : Meeting := (List.range m.halls.length).foldl stopHall m

def newListener (m : Meeting) (address : String) : Result × Meeting :=
  match Transport.makeListener address with
  | .error e => (.failed e, m)
  | .ok l =>
    (.listener l.address.display (l.describe 0), { m with halls := m.halls ++ [⟨l, 0, 0⟩] })

/-! ## Connecting -/

def addressText (m : Meeting) : Address → String
  | .there address => address
  | .here tls host =>
    let port := match m.hall? with
      | some h => h.listener.address.port
      | none => 0
    s!"{Net.Endpoint.schemeFor tls}://{host}:{port}"

def profile (side : Side) (t : TrialTransport) (stack : Option (Stack Journal)) (f : Facts) :
    Profile Journal :=
  ⟨side, t.settings.maxFrameSize, stack, f.certificateMissing⟩

def party (side : Side) (t : TrialTransport) (stack : Option (Stack Journal)) (f : Facts) :
    Party Journal :=
  .new (profile side t stack f) t.dispatcher [] .empty

def countFailure (m : Meeting) (side : Side) : Meeting :=
  { m with metrics := m.metrics.handshakeFailed side }

def refuse (m : Meeting) (hall : Nat) : Meeting :=
  (m.updateHall hall fun h => { h with refused := h.refused + 1 }).countFailure .server

/-- Notes what the validators are told during a negotiation. -/
def noteVerdicts (m : Meeting) (host : String) (c : ClientPolicy Identity)
    (s : ServerPolicy Identity) : Meeting :=
  match Net.ServerName.ofText? host with
  | none => m
  | some name =>
    let a := Identity.authority
    let m := if c.validator.isSome
      then { m with clientVerdictBad := (c.check a name s.certificate).error.isSome } else m
    match (Library.standard (c.part a name) (s.part a)).shown with
    | some k =>
      if s.validator.isSome then { m with serverVerdictBad := (s.check a k).error.isSome } else m
    | none => m

/-- Adds the link of a client whose start has come to an end, one way or the other. -/
def join (m : Meeting) (name : String) (l : Link) : Result × Meeting :=
  match l.client.started with
  | some (.ok ()) =>
    (.connected l.clientFacts l.client.connection.phase,
      { m with links := m.links ++ [{ l with name := some name }] })
  | some (.error e) => (.failed e, { m with links := m.links ++ [l] })
  | none =>
    let l := l.update .client (·.act (.handshakeTimeout m.client.settings.handshakeTimeout))
    let e := match l.client.started with
      | some (.error e) => e
      | _ => .connectionClosed
    (.failed e, { m with links := m.links ++ [l] })

/-- The stream stands as far as the client knows; the server makes a connection or refuses. -/
def greet (m : Meeting) (hall : Nat) (name : String) (clientStack : Option (Stack Journal))
    (serverStack : Except TransportError (Option (Stack Journal))) (clientFacts : Facts)
    (served : Except TransportError Facts) : Result × Meeting :=
  let client := (party .client m.client clientStack clientFacts).act .start
  match serverStack, served with
  | .ok stack, .ok facts =>
    let server := (party .server m.server stack facts).act .start
    let link : Link := ⟨none, client, clientFacts, some server, facts, hall⟩
    (m.updateHall hall fun h => { h with accepted := h.accepted + 1 }).join name link.settle
  | .error _, _ =>
    (m.refuse hall).join name ⟨none, client.receive .ended, clientFacts, none, .plain, hall⟩
  | .ok _, .error e =>
    let client := client.receive (parting e).incoming
    (m.refuse hall).join name ⟨none, client, clientFacts, none, .plain, hall⟩

/-- The server made a connection for a client that could not go on. -/
def strand (m : Meeting) (hall : Nat) (stack : Option (Stack Journal)) (facts : Facts) : Meeting :=
  let server := ((party .server m.server stack facts).act .start).receive .ended
  let client := party .client m.client none .plain
  let m := m.updateHall hall fun h => { h with accepted := h.accepted + 1 }
  { m with links := m.links ++ [⟨none, client, .plain, some server.emptied, facts, hall⟩] }

def negotiateWith (m : Meeting) (hall : Nat) (name : String) (dialing : Dialing Journal) :
    Result × Meeting :=
  let serverStack := m.server.stackFor (connectionName (m.nextName + 1))
  let m := { m with nextName := m.nextName + 2 }
  let c := if dialing.endpoint.tls then some m.client.clientPolicy else none
  let host := dialing.endpoint.host
  let m := match c, m.server.serverTls with
    | some c, some s => m.noteVerdicts host c s
    | _, _ => m
  let o := negotiate .standard Identity.authority host c m.server.serverTls
  match o.client, serverStack, o.server with
  | .ok facts, stack, served => m.greet hall name dialing.stack stack facts served
  | .error e, .ok stack, .ok facts => (.failed e, (m.countFailure .client).strand hall stack facts)
  | .error e, _, _ => (.failed e, (m.countFailure .client).refuse hall)

def connect (m : Meeting) (name : String) (address : Address) : Result × Meeting :=
  match m.client.dial (connectionName m.nextName) (m.addressText address) with
  | .error e => (.failed e, m)
  | .ok dialing =>
    match m.network.connect m.listening dialing.socket with
    | .error e => (.failed e, m)
    | .ok socket =>
      match m.halls.findIdx? (·.listener.bound = some socket) with
      | none => (.failed (.connectionFailed dialing.socket.display), m)
      | some hall => m.negotiateWith hall name dialing

/-! ## Calls -/

def ending? (m : Meeting) (link : Nat) (side : Side) (caller : Nat) : Option Ending :=
  (m.links[link]?.bind (·.party? side)).bind (·.ended.lookup caller)

def run (m : Meeting) (target : Target) (e : Errand) : Result × Meeting :=
  match m.find? target with
  | none => (.noConnection, m)
  | some (link, side) =>
    let caller := m.nextCaller
    let m := { m with nextCaller := caller + 1 }.updateLink link side (·.call caller e)
    if e.expectsAnswer then
      let m := { m with callers := ⟨e.tag, link, side, caller⟩ :: m.callers }
      (.nothing, if e.patience.isSome then m.updateLink link side (·.act (.expire caller)) else m)
    else
      match m.ending? link side caller with
      | some ending => (.sent ending, m)
      | none => (.nothing, m)

def actOnCall (m : Meeting) (tag : String) (e : Nat → Event) : Meeting :=
  match m.callers.find? (·.tag = tag) with
  | some c => m.updateLink c.link c.side (·.act (e c.number))
  | none => m

def release (m : Meeting) (payload : Bytes) : Result × Meeting :=
  let ends := (List.range m.links.length).flatMap fun i => [(i, Side.server), (i, Side.client)]
  match ends.find? fun e =>
    match m.links[e.1]?.bind (·.party? e.2) with
    | some q => (q.release payload).1
    | none => false with
  | some e => (.released true, m.updateLink e.1 e.2 (·.release payload |>.2))
  | none => (.released false, m)

/-! ## Observing -/

def perform (m : Meeting) : Act → Result × Meeting
  | .start => m.start
  | .connect name address => m.connect name address
  | .errand target e => m.run target e
  | .stopConnection target =>
    match m.find? target with
    | some (link, side) => (.nothing, m.updateLink link side (·.act .stop))
    | none => (.noConnection, m)
  | .cancel tag => (.nothing, m.actOnCall tag .cancel)
  | .abandon tag => (.nothing, m.actOnCall tag .abandon)
  | .release payload => m.release payload
  | .stopListener => (.nothing, m.stopHall m.current)
  | .stopServer => (.nothing, m.stopServer)
  | .newListener address => m.newListener address
  | .status => (.nothing, m)

def byTag {α : Type} (entries : List (String × α)) : List (String × α) :=
  entries.mergeSort fun a b => a.1 ≤ b.1

def done (m : Meeting) : List (String × Ending) :=
  byTag (m.callers.reverse.filterMap fun c => (m.ending? c.link c.side c.number).map (c.tag, ·))

/-- The connections of the client by name; of those with one name only the latest. -/
def connections (m : Meeting) : List (String × Phase × Nat) :=
  byTag (m.links.foldl (fun found l =>
    match l.name with
    | some name =>
      (name, l.client.connection.phase, l.client.connection.pending) ::
        found.filter (·.1 ≠ name)
    | none => found) [])

def liveEnds (m : Meeting) : List (Phase × Nat × Facts) :=
  (m.liveIn m.current).filterMap fun i =>
    m.links[i]?.bind fun l =>
      l.server.map fun s => (s.connection.phase, s.connection.pending, l.serverFacts)

def heard (m : Meeting) (side : Side) : List Heard :=
  m.links.flatMap fun l =>
    match l.party? side with
    | some q => q.heard
    | none => []

def observe (m : Meeting) (result : Result) : Observation × Meeting :=
  let h := m.hall?.getD ⟨.new ⟨.loopback, 0, 0⟩, 0, 0⟩
  ({ result
     done := m.done
     connections := m.connections
     live := m.liveEnds
     accepted := h.accepted
     refused := h.refused
     stopped := h.listener.stopped
     serverHeard := m.heard .server
     clientHeard := m.heard .client },
    { m with links := m.links.map Link.seen })

def step (m : Meeting) (a : Act) : Observation × Meeting :=
  let r := m.perform a
  r.2.observe r.1

def allMetrics (m : Meeting) : Metrics :=
  m.links.foldl (fun n l =>
    let n := n.merge l.client.metrics
    match l.server with
    | some s => n.merge s.metrics
    | none => n) m.metrics

end Meeting

end Rpc
