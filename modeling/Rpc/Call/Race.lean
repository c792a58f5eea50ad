import Rpc.Call.Table

/-! # Many tasks at one table

The table of waiting calls is used by many tasks at once. Registering looks whether the table is
closed, draws numbers from the counter until one is free, enters it, looks again, and takes the
number back if the table has been closed in between. Closing raises the flag, collects the numbers
on the table, and takes them off one by one, failing each. Each of these is one step; steps of
different tasks come in any order. Under its number stands the registration that entered it: who
takes a number off holds the only way to that caller, so taking it off and answering is one step.
-/
namespace Rpc

inductive Registering
  | begun
  | looked
  | drawn (n : UInt64)
  | entered (n : UInt64)
  /-- The table was found closed after all. -/
  | withdrawing (n : UInt64)
  | registered (n : UInt64)
  | refused
  deriving DecidableEq, Repr

namespace Registering

def isDone : Registering → Bool
  | registered _ | refused => true
  | _ => false

/-- The number that the registration has on the table, or had until it was taken off. -/
def number? : Registering → Option UInt64
  | entered n | withdrawing n | registered n => some n
  | begun | looked | drawn _ | refused => none

end Registering

inductive Closing
  | begun
  | flagged
  | draining (left : List UInt64)
  | done
  deriving DecidableEq, Repr

/-- What becomes of a registration whose number is taken off the table. -/
inductive Outcome
  | replied (reply : Reply)
  | forgotten
  /-- The given registration took its number back. -/
  | withdrawn (task : Nat)

structure Race where
  next : UInt64
  closed : Bool
  /-- The numbers on the table, each with the registration that entered it. -/
  waiting : List (UInt64 × Nat)
  registers : List (Nat × Registering)
  closers : List (Nat × Closing)
  /-- The registrations whose numbers were taken off, the latest first. -/
  outcomes : List (Nat × Outcome)

namespace Race

inductive Event
  | beginRegister (task : Nat)
  | register (task : Nat)
  | allocate
  | complete (n : UInt64) (reply : Reply)
  | remove (n : UInt64)
  | beginClose (task : Nat)
  | close (task : Nat)

def new (side : Side) : Race := ⟨side.firstConversation, false, [], [], [], []⟩

def table (r : Race) : CallTable := ⟨r.next, r.waiting.map Prod.fst, r.closed⟩

def setRegister (r : Race) (task : Nat) (after : Registering) : Race :=
  { r with registers := r.registers.map fun e => if e.1 = task then (task, after) else e }

def setCloser (r : Race) (task : Nat) (after : Closing) : Race :=
  { r with closers := r.closers.map fun e => if e.1 = task then (task, after) else e }

/-- Moves the counter on; the number given out is where it stood. -/
def draw (r : Race) : Race := { r with next := r.next + 2 }

def take (r : Race) (n : UInt64) (outcome : Outcome) : Race :=
  match r.waiting.lookup n with
  | some task =>
    { r with
      waiting := r.waiting.filter (·.1 ≠ n)
      outcomes := (task, outcome) :: r.outcomes }
  | none => r

/-- The next step of a registration. Zero belongs to control frames, so it is not used; a number
that a call waits under is not used either. -/
def stepRegister (r : Race) (task : Nat) : Registering → Race
  | .begun => r.setRegister task (if r.closed then .refused else .looked)
  | .looked => r.draw.setRegister task (if r.next = 0 then .looked else .drawn r.next)
  | .drawn n =>
    if (r.waiting.lookup n).isSome then r.setRegister task .looked
    else { r with waiting := (n, task) :: r.waiting }.setRegister task (.entered n)
  | .entered n => r.setRegister task (if r.closed then .withdrawing n else .registered n)
  | .withdrawing n => (r.take n (.withdrawn task)).setRegister task .refused
  | .registered _ | .refused => r

def stepClose (r : Race) (task : Nat) : Closing → Race
  | .begun => { r with closed := true }.setCloser task .flagged
  | .flagged => r.setCloser task (.draining (r.waiting.map Prod.fst))
  | .draining (n :: left) =>
    (r.take n (.replied (.error (.transport .connectionClosed)))).setCloser task (.draining left)
  | .draining [] => r.setCloser task .done
  | .done => r

/-- Task numbers are used once. -/
def step (r : Race) : Event → Race
  | .beginRegister task =>
    if (r.registers.lookup task).isSome then r
    else { r with registers := r.registers ++ [(task, .begun)] }
  | .register task =>
    match r.registers.lookup task with
    | some g => r.stepRegister task g
    | none => r
  | .allocate => r.draw
  | .complete n reply => r.take n (.replied reply)
  | .remove n => r.take n .forgotten
  | .beginClose task =>
    if (r.closers.lookup task).isSome then r
    else { r with closers := r.closers ++ [(task, .begun)] }
  | .close task =>
    match r.closers.lookup task with
    | some g => r.stepClose task g
    | none => r

def run (r : Race) (es : List Event) : Race := es.foldl step r

def IsQuiet (r : Race) : Prop :=
  (∀ e ∈ r.registers, e.2.isDone) ∧ ∀ e ∈ r.closers, e.2 = .done

end Race

end Rpc
