import Rpc.Connection.Intake
import Rpc.Loopback.Party
import Rpc.Loopback.Trial
import Rpc.Net.Network

/-! # A party against a scripted peer

One party talks to a peer that writes what it is told, octet by octet if need be. After each act
everything runs until nothing more happens, and then what the peer and the application saw is
looked at.
-/
namespace Rpc

open Layer Message

/-- What the peer writes: frames, or octets that need not make any. -/
inductive Item
  | frame (f : Frame)
  | raw (b : Bytes)

/-- A frame that cannot be encoded is left out. -/
def Item.octets : Item → Bytes
  | .frame f =>
    match f.write Frame.defaultLimit with
    | .ok b => b
    | .error _ => []
  | .raw b => b

def Item.greeting : Item :=
  match noticeFrame .greeting with
  | .ok f => .frame f
  | .error _ => .raw []

inductive Act
  | peerSends (items : List Item)
  | peerCloses
  | errand (e : Errand)
  | cancel (tag : String)
  | abandon (tag : String)
  | release (payload : Bytes)
  | stop (times : Nat)
  | wait

inductive Result
  | nothing
  | sent (ending : Ending)
  | released (found : Bool)
  | live (n : Nat)

structure Observation where
  result : Result
  phase : Phase
  pending : Nat
  frames : List Frame
  heard : List Heard
  done : List (String × Ending)
  hungUp : Bool
  journal : Journal

structure Scripted where
  party : Party Journal
  intake : Intake
  /-- The callers of calls by their tags, the latest first. -/
  callers : List (String × Nat)
  nextCaller : Nat
  hungUp : Bool

inductive Opening
  | unreachable
  /-- The listener refused the peer. -/
  | refused (metrics : Metrics)
  | failed (cause : TransportError) (frames : List Frame) (hungUp : Bool) (metrics : Metrics)
  | up (first : Observation) (trial : Scripted)

namespace Scripted

def new (p : Party Journal) : Scripted := ⟨p, .empty, [], 0, false⟩

/-- Takes in whole pieces while there are any. -/
def takeIn : (room : Nat) → Scripted → Scripted
  | 0, s => s
  | n + 1, s =>
    if s.party.connection.loop.isReady then
      match s.intake.next? s.party.profile.limit with
      | some (piece, intake) => takeIn n { s with party := s.party.receive piece, intake }
      | none => s
    else s

/-- Every piece but the last ones is made of octets. -/
def digest (s : Scripted) : Scripted := takeIn (s.intake.buffer.length + 2) s

def feed (s : Scripted) (items : List Item) : Scripted :=
  { s with intake := s.intake.feed (items.map Item.octets).flatten }.digest

def finish (s : Scripted) : Scripted := { s with intake := s.intake.finish }.digest

def update (s : Scripted) (f : Party Journal → Party Journal) : Scripted :=
  { s with party := f s.party }

def frames (s : Scripted) : List Frame :=
  s.party.written.filterMap fun
    | .frame f => some f
    | .ended => none

def hasHungUp (s : Scripted) : Bool :=
  s.hungUp || s.party.written.any fun
    | .ended => true
    | .frame _ => false

def tagOf (s : Scripted) (caller : Nat) : Option String :=
  (s.callers.find? (·.2 = caller)).map (·.1)

def done (s : Scripted) : List (String × Ending) :=
  (s.party.ended.filterMap fun e => (s.tagOf e.1).map (·, e.2)).mergeSort fun a b => a.1 ≤ b.1

/-- Looks at what happened since the last look. -/
def observe (s : Scripted) (result : Result) : Observation × Scripted :=
  let o : Observation :=
    { result
      phase := s.party.connection.phase
      pending := s.party.connection.pending
      frames := s.frames.mergeSort fun f g => f.conversation ≤ g.conversation
      heard := s.party.heard
      done := s.done
      hungUp := s.hasHungUp
      journal := s.party.connection.surroundings }
  let p := s.party.seen.emptied
  (o, { s with
    party := { p with connection := { p.connection with surroundings := [] } }
    hungUp := o.hungUp })

/-- A caller with a deadline waits until its call has ended. -/
def run (s : Scripted) (e : Errand) : Result × Scripted :=
  let caller := s.nextCaller
  let s := { s with nextCaller := caller + 1 }.update (·.call caller e)
  if e.expectsAnswer then
    let s := { s with callers := (e.tag, caller) :: s.callers }
    (.nothing, if e.patience.isSome then s.update (·.act (.expire caller)) else s)
  else
    match s.party.ended.lookup caller with
    | some ending => (.sent ending, s)
    | none => (.nothing, s)

def actOnCall (s : Scripted) (tag : String) (e : Nat → Event) : Scripted :=
  match s.callers.lookup tag with
  | some caller => s.update (·.act (e caller))
  | none => s

def perform (s : Scripted) : Act → Result × Scripted
  | .peerSends items => (.nothing, s.feed items)
  | .peerCloses => (.nothing, s.finish)
  | .errand e => s.run e
  | .cancel tag => (.nothing, s.actOnCall tag .cancel)
  | .abandon tag => (.nothing, s.actOnCall tag .abandon)
  | .release payload =>
    let r := s.party.release payload
    (.released r.1, { s with party := r.2 })
  | .stop times => (.nothing, (List.range times).foldl (fun s _ => s.update (·.act .stop)) s)
  | .wait => (.nothing, s)

def step (s : Scripted) (a : Act) : Observation × Scripted :=
  let r := s.perform a
  r.2.observe r.1

def live (s : Scripted) : Nat := if s.party.connection.phase = .disconnected then 0 else 1

def side (s : Scripted) : Side := s.party.profile.side

/-- The party stops. A transport that listens tells how many connections are left. -/
def close (s : Scripted) : Observation × Scripted :=
  let s := s.update (·.act .stop)
  s.observe (match s.side with
    | .server => .live s.live
    | .client => .nothing)

def profile (side : Side) (t : TrialTransport) (stack : Option (Stack Journal)) : Profile Journal :=
  ⟨side, t.settings.maxFrameSize, stack, false⟩

/-- Where the one that listens is found. -/
def meetingPoint : Net.Socket := ⟨.loopback, UInt16.ofNat Net.Network.firstFreePort, 0⟩

/-- The peer dials a party that listens. -/
def openServer (n : Net.Network) (t : TrialTransport) : Opening :=
  match n.connect [meetingPoint] meetingPoint with
  | .error _ => .unreachable
  | .ok _ =>
    match t.stackFor (connectionName 1) with
    | .error _ => .refused (Metrics.empty.handshakeFailed .server)
    | .ok stack =>
      let party := Party.new (profile .server t stack) t.dispatcher [] .empty
      let r := (Scripted.new (party.act .start)).observe .nothing
      .up r.1 r.2

/-- A party dials a peer that listens. -/
def reach (n : Net.Network) (t : TrialTransport) : Except TransportError (Option (Stack Journal)) :=
  match t.dial (connectionName 1) ("mortar://" ++ meetingPoint.display) with
  | .error e => .error e
  | .ok dialing => (n.connect [meetingPoint] dialing.socket).map fun _ => dialing.stack

/-- The peer answers the greeting of a party with some items, and then perhaps closes. -/
def openClient (t : TrialTransport) (stack : Option (Stack Journal)) (reply : List Item)
    (closes : Bool) : Opening :=
  let party := Party.new (profile .client t stack) t.dispatcher [] .empty
  let s := (Scripted.new (party.act .start)).feed reply
  let s := if closes then s.finish else s
  let s := if s.party.started.isSome then s
    else s.update (·.act (.handshakeTimeout t.settings.handshakeTimeout))
  match s.party.started with
  | some (.error e) => .failed e s.frames s.hasHungUp s.party.metrics
  | _ =>
    let r := s.observe .nothing
    .up r.1 r.2

end Scripted

end Rpc
