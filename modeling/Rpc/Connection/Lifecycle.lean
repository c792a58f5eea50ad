import Rpc.Call.Race
import Rpc.Connection.Phase

/-! # The life of a connection, step by step

A connection is started by one task and may be torn down by several: callers of stop, writers that
failed, the receive loop at its end, and the starting task if the handshake fails. The first of
them winds the connection down, step by step: the phase, the flag of the stream, the graceful close
during which it waits, the socket, the table of waiting calls, and the phase again. A caller of
stop may be dropped wherever it waits. Steps of different tasks come in any order. Whatever a
connection does in one step, some of them do one after the other (`Connection.exists_life`).
-/
namespace Rpc

/-- The starting task takes the reader, waits for the greeting if it is a client's, and marks the
connection. It leaves the receive loop running. -/
inductive Starting
  | idle
  | taking
  | greeting
  | marking
  | running
  | ended
  deriving DecidableEq, Repr

inductive TeardownActor
  | stopper | writer | loop | starter
  deriving DecidableEq, Repr

/-- A caller of stop looks whether the connection is up and writes its goodbye. From there on all
teardowns go the same way, and the first to enter does the work; a caller of stop waits for its
end. -/
inductive Winding
  | looking
  | noticing
  | entering
  | shutting (wasUp : Bool)
  | graceful (wasUp : Bool)
  | socket (wasUp : Bool)
  | tabling (wasUp : Bool)
  | draining (wasUp : Bool)
  | marking (wasUp : Bool)
  | waiting
  | done
  | dropped
  deriving DecidableEq, Repr

namespace Winding

/-- Whether the task waits for something, so that its caller may drop it here. -/
def waits : Winding → Bool
  | noticing | graceful _ | waiting => true
  | _ => false

def isLive : Winding → Bool
  | looking | noticing | entering | shutting _ | graceful _ | socket _ | tabling _ | draining _
  | marking _ => true
  | waiting | done | dropped => false

/-- Whether the task is the one that winds the connection down. -/
def isWorking : Winding → Bool
  | shutting _ | graceful _ | socket _ | tabling _ | draining _ | marking _ => true
  | _ => false

end Winding

structure Teardown where
  actor : TeardownActor
  progress : Winding
  deriving DecidableEq, Repr

structure Life where
  side : Side
  phase : Phase
  starting : Starting
  shut : Bool
  readerTaken : Bool
  socketClosed : Bool
  race : Race
  teardowns : List (Nat × Teardown)
  /-- All phases so far, the latest first. -/
  phases : List Phase
  /-- How often the stream was shut, and the table closed, by a teardown. -/
  shutdowns : Nat
  closings : Nat
  turnedAway : List Nat

namespace Life

inductive Event
  | start
  | greeted (success : Bool)
  | loopEnds (task : Nat)
  | beginStop (task : Nat)
  | writeFails (task : Nat)
  | wind (task : Nat)
  | drop (task : Nat)
  | call (task : Nat)
  | race (event : Race.Event)

def new (side : Side) : Life where
  side := side
  phase := .created
  starting := .idle
  shut := false
  readerTaken := false
  socketClosed := false
  race := .new side
  teardowns := []
  phases := [.created]
  shutdowns := 0
  closings := 0
  turnedAway := []

def setPhase (l : Life) (p : Phase) : Life := { l with phase := p, phases := p :: l.phases }

def addTeardown (l : Life) (task : Nat) (t : Teardown) : Life :=
  { l with teardowns := l.teardowns ++ [(task, t)] }

def setTeardown (l : Life) (task : Nat) (after : Winding) : Life :=
  { l with teardowns := l.teardowns.map fun e =>
      if e.1 = task then (task, { e.2 with progress := after }) else e }

/-- The number of the teardown that a failed start brings. -/
def startTask : Nat := 0

def isFree (l : Life) (task : Nat) : Bool := task ≠ startTask && (l.teardowns.lookup task).isNone

/-- A server goes on at once when it has the reader; a client greets first. A stream that is shut
gives no reader away. -/
def stepStart (l : Life) : Life :=
  match l.starting with
  | .idle =>
    match l.side with
    | .client => { l.setPhase .connecting with starting := .taking }
    | .server => { l with starting := .taking }
  | .taking =>
    if l.shut then { l with starting := .ended }.addTeardown startTask ⟨.starter, .entering⟩
    else
      { l with
        readerTaken := true
        starting := match l.side with | .client => .greeting | .server => .marking }
  | .marking => { l.setPhase .connected with starting := .running }
  | .greeting | .running | .ended => l

def greeted (l : Life) (success : Bool) : Life :=
  if l.starting = .greeting then
    if success then { l with starting := .marking }
    else { l with starting := .ended }.addTeardown startTask ⟨.starter, .entering⟩
  else l

/-- Where a teardown goes that finds nothing left to do. -/
def rest (h : TeardownActor) : Winding := if h = .stopper then .waiting else .done

/-- The next step of a teardown. Only the phase tells the first from the others. -/
def stepTeardown (l : Life) (task : Nat) (t : Teardown) : Life :=
  match t.progress with
  | .looking => l.setTeardown task (if l.phase = .connected then .noticing else .entering)
  | .noticing => l.setTeardown task .entering
  | .entering =>
    if l.phase.isOver then l.setTeardown task (rest t.actor)
    else (l.setPhase .disconnecting).setTeardown task (.shutting (l.phase = .connected))
  | .shutting wasUp =>
    if l.shut then l.setTeardown task (.tabling wasUp)
    else { l with shut := true, shutdowns := l.shutdowns + 1 }.setTeardown task (.graceful wasUp)
  | .graceful wasUp => l.setTeardown task (.socket wasUp)
  | .socket wasUp => { l with socketClosed := true }.setTeardown task (.tabling wasUp)
  | .tabling wasUp =>
    { l with race := l.race.step (.beginClose task), closings := l.closings + 1 }.setTeardown task
      (.draining wasUp)
  | .draining wasUp =>
    if l.race.closers.lookup task = some .done then l.setTeardown task (.marking wasUp)
    else { l with race := l.race.step (.close task) }
  | .marking _ => (l.setPhase .disconnected).setTeardown task (rest t.actor)
  | .waiting => if l.phase = .disconnected then l.setTeardown task .done else l
  | .done | .dropped => l

def dropTeardown (l : Life) (task : Nat) (t : Teardown) : Life :=
  if t.actor = .stopper ∧ t.progress.waits then l.setTeardown task .dropped else l

def call (l : Life) (task : Nat) : Life :=
  if l.phase = .connected then { l with race := l.race.step (.beginRegister task) }
  else { l with turnedAway := task :: l.turnedAway }

def isOutside : Race.Event → Bool
  | .register _ | .allocate | .complete _ _ | .remove _ => true
  | .beginRegister _ | .beginClose _ | .close _ => false

def step (l : Life) : Event → Life
  | .start => l.stepStart
  | .greeted success => l.greeted success
  | .loopEnds task =>
    if l.starting = .running ∧ l.isFree task then
      { l with starting := .ended }.addTeardown task ⟨.loop, .entering⟩
    else l
  | .beginStop task => if l.isFree task then l.addTeardown task ⟨.stopper, .looking⟩ else l
  | .writeFails task => if l.isFree task then l.addTeardown task ⟨.writer, .entering⟩ else l
  | .wind task =>
    match l.teardowns.lookup task with
    | some t => l.stepTeardown task t
    | none => l
  | .drop task =>
    match l.teardowns.lookup task with
    | some t => l.dropTeardown task t
    | none => l
  | .call task => l.call task
  | .race event => if isOutside event then { l with race := l.race.step event } else l

def run (l : Life) (es : List Event) : Life := es.foldl step l

def IsQuiet (l : Life) : Prop := ∀ e ∈ l.teardowns, e.2.progress.isLive = false

end Life

end Rpc
