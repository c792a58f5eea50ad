import Rpc.Connection.Lifecycle

/-! # Admitting connections

Every socket that a listener accepts gets a task of its own, which asks for layers, negotiates the
stream, makes the connection, lists and counts it, starts it, and takes it off the list once it is
gone. Meanwhile the listener may be stopped, by several callers, and every connection goes through
its life. Steps of different tasks come in any order.
-/
namespace Rpc

/-- The task of a socket looks twice whether the listener has been stopped: before it makes the
connection, which is then turned away, and once the connection runs. -/
inductive Admitting
  | choosing
  | negotiating
  | looking
  | making
  | listing
  | counting
  | starting
  | failing
  | ending
  | lookingAgain
  | stopping
  | waiting
  | leaving
  | refused
  | turnedAway
  | gone
  deriving DecidableEq, Repr

namespace Admitting

def isCounted : Admitting → Bool
  | starting | failing | ending | lookingAgain | stopping | waiting | leaving | gone => true
  | _ => false

end Admitting

/-- A stop raises the flag, waits for the accept loop unless another stop does, and goes through the
connections that are listed then. -/
inductive Halting
  | raising
  | taking
  | joining
  | collecting
  | gathering (ahead found : List Nat)
  | stopping (connections : List Nat)
  | done
  deriving DecidableEq, Repr

structure Handled where
  connection : Nat
  listed : Bool
  phase : Phase
  deriving DecidableEq, Repr

structure Admission where
  stopped : Bool
  accepting : Bool
  /-- A stop waits, or has waited, for the accept loop. -/
  loopTaken : Bool
  sockets : List (Nat × Admitting)
  lives : List (Nat × Life)
  live : List Nat
  accepted : Nat
  refused : Nat
  halts : List (Nat × Halting)
  /-- The frames that connections handled, the latest first. -/
  handled : List Handled

namespace Admission

inductive Event
  | accept (socket : Nat)
  /-- The next step of the task of a socket; `passes` tells how a choice or negotiation ends. -/
  | advance (socket : Nat) (passes : Bool)
  | loopEnds
  | beginStop (task : Nat)
  | stop (task : Nat)
  /-- A stop that goes through the list comes by a connection that was listed meanwhile. -/
  | gather (task socket : Nat)
  | handle (socket : Nat)
  | live (socket : Nat) (event : Life.Event)

def new : Admission := ⟨false, true, false, [], [], [], 0, 0, [], []⟩

/-- Teardowns go by numbers: the one of the task of a socket, those of stops of the listener, and
those of everybody else. -/
def ownStop : Nat := 1

def stopOf (task : Nat) : Nat := 2 * task + 2

def foreign (task : Nat) : Nat := 2 * task + 3

def setSocket (a : Admission) (socket : Nat) (after : Admitting) : Admission :=
  { a with sockets := a.sockets.map fun e => if e.1 = socket then (socket, after) else e }

def setHalt (a : Admission) (task : Nat) (after : Halting) : Admission :=
  { a with halts := a.halts.map fun e => if e.1 = task then (task, after) else e }

def life? (a : Admission) (socket : Nat) : Option Life := a.lives.lookup socket

def updateLife (a : Admission) (socket : Nat) (f : Life → Life) : Admission :=
  { a with lives := a.lives.map fun e => if e.1 = socket then (socket, f e.2) else e }

def isGone (a : Admission) (socket : Nat) : Bool :=
  match a.life? socket with
  | some l => l.phase = .disconnected
  | none => true

def hasDone (a : Admission) (task socket : Nat) : Bool :=
  match a.life? socket with
  | some l =>
    match l.teardowns.lookup task with
    | some t => t.progress = .done
    | none => true
  | none => true

def refuse (a : Admission) (socket : Nat) : Admission :=
  { a with refused := a.refused + 1 }.setSocket socket .refused

def goOn (a : Admission) (socket : Nat) : Admission :=
  match a.life? socket with
  | some l =>
    let l := l.step .start
    let a := a.updateLife socket fun _ => l
    match l.starting with
    | .running => a.setSocket socket .lookingAgain
    | .ended => a.setSocket socket .failing
    | _ => a
  | none => a

def stepSocket (a : Admission) (socket : Nat) (passes : Bool) : Admitting → Admission
  | .choosing => if passes then a.setSocket socket .negotiating else a.refuse socket
  | .negotiating => if passes then a.setSocket socket .looking else a.refuse socket
  | .looking => a.setSocket socket (if a.stopped then .turnedAway else .making)
  | .making => { a with lives := a.lives ++ [(socket, Life.new .server)] }.setSocket socket .listing
  | .listing => { a with live := a.live ++ [socket] }.setSocket socket .counting
  | .counting => { a with accepted := a.accepted + 1 }.setSocket socket .starting
  | .starting => a.goOn socket
  | .failing => { a with live := a.live.filter (· ≠ socket) }.setSocket socket .ending
  | .ending => if a.isGone socket then a.setSocket socket .gone else a
  | .lookingAgain =>
    if a.stopped then
      (a.updateLife socket fun l => l.step (.beginStop ownStop)).setSocket socket .stopping
    else a.setSocket socket .waiting
  | .stopping => if a.hasDone ownStop socket then a.setSocket socket .waiting else a
  | .waiting => if a.isGone socket then a.setSocket socket .leaving else a
  | .leaving => { a with live := a.live.filter (· ≠ socket) }.setSocket socket .gone
  | .refused | .turnedAway | .gone => a

/-- A stop looks whether a connection is listed, and begins to stop it unless it has before. -/
def find (a : Admission) (task socket : Nat) (ahead found : List Nat) : Admission :=
  if socket ∈ a.live ∧ socket ∉ found then
    (a.updateLife socket fun l => l.step (.beginStop (stopOf task))).setHalt task
      (.gathering ahead (found ++ [socket]))
  else a.setHalt task (.gathering ahead found)

def stepHalt (a : Admission) (task : Nat) : Halting → Admission
  | .raising => { a with stopped := true }.setHalt task .taking
  | .taking =>
    if a.loopTaken then a.setHalt task .collecting
    else { a with loopTaken := true }.setHalt task .joining
  | .joining => if a.accepting then a else a.setHalt task .collecting
  | .collecting => a.setHalt task (.gathering a.live [])
  | .gathering (socket :: ahead) found => a.find task socket ahead found
  | .gathering [] found => a.setHalt task (.stopping found)
  | .stopping connections =>
    if connections.all (a.hasDone (stopOf task)) then a.setHalt task .done else a
  | .done => a

/-- What may happen to a connection beside its admission: its receive loop ends, others stop it,
its writes fail, and teardowns go on. -/
def disturb (l : Life) : Life.Event → Life
  | .loopEnds task => l.step (.loopEnds (foreign task))
  | .beginStop task => l.step (.beginStop (foreign task))
  | .writeFails task => l.step (.writeFails (foreign task))
  | .wind task => l.step (.wind task)
  | .call task => l.step (.call task)
  | .race event => l.step (.race event)
  | .start | .greeted _ | .drop _ => l

def handle (a : Admission) (socket : Nat) : Admission :=
  match a.life? socket with
  | some l =>
    if l.starting = .running then
      { a with handled := ⟨socket, a.live.contains socket, l.phase⟩ :: a.handled }
    else a
  | none => a

def step (a : Admission) : Event → Admission
  | .accept socket =>
    if a.accepting ∧ (a.sockets.lookup socket).isNone then
      { a with sockets := a.sockets ++ [(socket, .choosing)] }
    else a
  | .advance socket passes =>
    match a.sockets.lookup socket with
    | some g => a.stepSocket socket passes g
    | none => a
  | .loopEnds => if a.stopped then { a with accepting := false } else a
  | .beginStop task =>
    if (a.halts.lookup task).isSome then a else { a with halts := a.halts ++ [(task, .raising)] }
  | .stop task =>
    match a.halts.lookup task with
    | some g => a.stepHalt task g
    | none => a
  | .gather task socket =>
    match a.halts.lookup task with
    | some (.gathering ahead found) => a.find task socket ahead found
    | _ => a
  | .handle socket => a.handle socket
  | .live socket event => a.updateLife socket (disturb · event)

def run (a : Admission) (es : List Event) : Admission := es.foldl step a

/-- Whether a task has to take this step sooner or later. A negotiation may wait for its peer, and
a receive loop ends once its socket is closed. -/
def IsDue (a : Admission) : Event → Prop
  | .advance socket _ => a.sockets.lookup socket ≠ some .negotiating
  | .loopEnds | .stop _ => True
  | .live _ (.wind _) => True
  | .live socket (.loopEnds _) => ∃ l, a.life? socket = some l ∧ l.socketClosed
  | _ => False

def IsQuiet (a : Admission) : Prop := ∀ e, a.IsDue e → a.step e = a

end Admission

end Rpc
